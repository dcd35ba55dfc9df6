import GoldenFiles.Proofs.FileSystem.Adding
import GoldenFiles.Proofs.Run.Confined
import GoldenFiles.Proofs.Run.Verdicts

/-!
# What protects an expected output

The guard of `runCase` compares the components of two paths and does not ask the file
system. It stops the cases whose outputs are spelled alike. Two spellings that differ can
still name one file, by a dot in front, a step up, a link, or because one of them is
absolute; then the program is started, and whoever writes the actual output writes the
expected one.

How far this goes is told by one question to the file system before the run: what would
be opened, if the output were opened now? A confined executor works in two phases. As
long as it has not written, it has only made directories that were missing, one after the
other. Once it has written, all directories above the output are there and no other can
be made, and whatever it opens is the file that it opened first. So it can change one
file of those that were there, and this file is known in advance (`entry?_of_touches`).
-/

namespace GoldenFiles

open FileSystem

/-- One of the directories above an output is made. -/
def Makes (actual : Path) (fs gs : FileSystem) : Prop :=
  ∃ parent dir, actual.parent? = some parent ∧ dir ∈ parent.ancestors ∧
    dir.access (fs.makeDirectory dir) = .ok gs

section Phases

variable {actual p q : Path} {name : Name} {fs gs hs : FileSystem} {loc : Location}

/-- Making a directory sets an entry that was missing. -/
theorem makeDirectory_sets (h : fs.makeDirectory p = .ok gs) :
    ∃ name dir, fs.entry? (name :: dir) = none ∧ gs = fs.put (name :: dir) .directory := by
  rw [makeDirectory] at h
  split at h
  · next dir name hfind =>
      exact ⟨name, dir, holds_of_walk ((find_eq_ok_iff ..).mp hfind).2.2, (Except.ok.inj h).symm⟩
  · cases h
  · cases h

theorem Makes.kept (h : Makes actual fs gs) :
    gs.here = fs.here ∧ ∀ l e, fs.entry? l = some e → gs.entry? l = some e := by
  obtain ⟨parent, dir, -, -, hmade⟩ := h
  obtain ⟨-, hmade⟩ := (Path.access_eq_ok_iff ..).mp hmade
  obtain ⟨name, place, absent, rfl⟩ := makeDirectory_sets hmade
  refine ⟨here_put .., fun l e he => ?_⟩
  rw [entry?_put fs (List.cons_ne_nil _ _), if_neg, he]
  rintro rfl
  rw [absent] at he
  cases he

theorem kept_of_makes (h : Relation.ReflTransGen (Makes actual) fs gs) :
    gs.here = fs.here ∧ ∀ l e, fs.entry? l = some e → gs.entry? l = some e := by
  induction h with
  | refl => exact ⟨rfl, fun _ _ he => he⟩
  | tail _ step ih => exact ⟨step.kept.1.trans ih.1, fun l e he => step.kept.2 l e (ih.2 l e he)⟩

theorem adds_of_makes (hname : Path.NormalName name)
    (short : (q.join ⟨name⟩).bytes.length < maxPathLength)
    (h : Makes (q.join ⟨name⟩) fs gs) : Adds (start fs.here q) q.names fs gs := by
  obtain ⟨parent, dir, habove, hdir, hmade⟩ := h
  obtain ⟨-, hmade⟩ := (Path.access_eq_ok_iff ..).mp hmade
  rw [Path.parent?_join hname] at habove
  obtain rfl := Option.some.inj habove
  have hbytes := q.trimmed_prefix.trans (Path.prefix_join hname)
  have hstart : start fs.here q.trimmed = start fs.here q := by
    rw [start, start, Path.isAbsolute_trimmed]
  exact hstart ▸ adds_of_makeDirectory q.names q.trimmed_trim q.names_trimmed (Nat.le_refl _)
    (Nat.lt_of_le_of_lt hbytes.length_le short) hdir hmade

/-- What can be opened after some directories above it have been made is what opening it
opens. -/
theorem openOutput_of_makes (h : Relation.ReflTransGen (Makes actual) fs gs)
    (hopen : actual.access (gs.create actual) = .ok (loc, hs)) :
    fs.openOutput actual = (.ok loc, hs) := by
  obtain ⟨-, hcreate⟩ := (Path.access_eq_ok_iff ..).mp hopen
  obtain ⟨q, name, hname, rfl, short, -, -⟩ := exists_leads_of_create hcreate
  refine openOutput_of_adds hname ?_ hopen
  clear hopen hcreate
  induction h with
  | refl => exact .refl
  | tail hmakes step ih =>
      have hadds := adds_of_makes hname short step
      rw [(kept_of_makes hmakes).1] at hadds
      exact ih.tail hadds

/-- No directory is made above an output that can be opened. -/
theorem not_makes_of_create (h : fs.create actual = .ok (loc, hs)) : ¬Makes actual fs gs := by
  obtain ⟨q, name, hname, rfl, short, dir, leads⟩ := exists_leads_of_create h
  exact fun hmakes => not_adds_of_leads leads (adds_of_makes hname short hmakes)

/-- What writing an output does, and that it can be done again. -/
theorem written (h : actual.access (fs.create actual) = .ok (loc, gs)) (content : Bytes) :
    fs.Keeps (gs.fill loc content) ∧
      (∀ l, l ≠ loc → entry? (gs.fill loc content) l = fs.entry? l) ∧
      ∃ hs, actual.access (create (gs.fill loc content) actual) = .ok (loc, hs) := by
  obtain ⟨nul, hcreate⟩ := (Path.access_eq_ok_iff ..).mp h
  have hkeeps := (keeps_of_create hcreate).trans (keeps_fill gs loc content)
  obtain ⟨executable, he⟩ := create_opens hcreate
  refine ⟨hkeeps, fun l hl => ?_, ?_⟩
  · obtain ⟨hloc, executable, rfl⟩ := create_puts hcreate
    rw [fill, he]
    simp only [entry?_put _ hloc, if_neg hl]
  · exact ⟨_, (Path.access_eq_ok_iff ..).mpr
      ⟨nul, create_again hcreate hkeeps (entry?_fill he)⟩⟩

/-- How far an executor has come with an output: it has made directories, or it has written
a file, and then it will only write this file again. -/
inductive Progress (actual : Path) (fs gs : FileSystem) : Prop where
  | preparing (made : Relation.ReflTransGen (Makes actual) fs gs)
  | writing (loc : Location) (opens : ∃ after, fs.openOutput actual = (.ok loc, after))
      (again : ∃ after, actual.access (gs.create actual) = .ok (loc, after)) (keeps : fs.Keeps gs)
      (others : ∀ l e, l ≠ loc → fs.entry? l = some e → gs.entry? l = some e)

theorem Progress.step (h : Progress actual fs gs) (step : Touch actual gs hs) :
    Progress actual fs hs := by
  cases step with
  | makeDirectory above is_ancestor made =>
      have hmakes : Makes actual gs hs := ⟨_, _, above, is_ancestor, made⟩
      cases h with
      | preparing made => exact .preparing (made.tail hmakes)
      | writing loc opens again keeps others =>
          obtain ⟨after, hagain⟩ := again
          obtain ⟨-, hcreate⟩ := (Path.access_eq_ok_iff ..).mp hagain
          exact absurd hmakes (not_makes_of_create hcreate)
  | write opened content =>
      obtain ⟨hkeeps, hothers, hagain⟩ := written opened content
      cases h with
      | preparing made =>
          obtain ⟨hhere, hkept⟩ := kept_of_makes made
          refine .writing _ ⟨_, openOutput_of_makes made opened⟩ hagain ?_ fun l e hl he => ?_
          · exact .trans ⟨hhere, fun he => ⟨_, hkept _ _ he, rfl⟩⟩ hkeeps
          · rw [hothers l hl, hkept l e he]
      | writing loc opens again keeps others =>
          obtain ⟨after, hbefore⟩ := again
          obtain ⟨rfl, -⟩ := Prod.mk.inj (Except.ok.inj (hbefore.symm.trans opened))
          refine .writing _ opens hagain (keeps.trans hkeeps) fun l e hl he => ?_
          rw [hothers l hl, others l e hl he]

/-- What was there is as it was, or it is the file that opening the output opens. -/
theorem entry?_of_touches (h : Touches actual fs gs) : fs.Keeps gs ∧ ∀ l e,
    fs.entry? l = some e → gs.entry? l = some e ∨ ∃ after, fs.openOutput actual = (.ok l, after) := by
  have hprogress : Progress actual fs gs := by
    induction h with
    | refl => exact .preparing .refl
    | tail _ step ih => exact ih.step step
  cases hprogress with
  | preparing made =>
      obtain ⟨hhere, hkept⟩ := kept_of_makes made
      exact ⟨⟨hhere, fun he => ⟨_, hkept _ _ he, rfl⟩⟩, fun l e he => .inl (hkept l e he)⟩
  | writing loc opens again keeps others =>
      refine ⟨keeps, fun l e he => ?_⟩
      by_cases hl : l = loc
      · exact .inr (hl ▸ opens)
      · exact .inl (others l e hl he)

end Phases

/-! ## The expected output of a case -/

/-- Whatever a confined executor does, the expected output of a case reads as before. -/
def TestCase.KeepsExpected (c : TestCase) (fs : FileSystem) : Prop :=
  ∀ execute : Executor, execute.Confined → ∀ s : RunState, s.files = fs →
    (runCase execute c s).2.files.reading c.artifacts.expected = fs.reading c.artifacts.expected

section Expected

variable {c : TestCase} {fs : FileSystem} {place : Location} {content : Bytes} {executable : Bool}

/-- Outputs that are spelled alike are not touched: the case fails before the program is
started. -/
theorem runCase_of_same (h : c.artifacts.actual.Same c.artifacts.expected) (execute : Executor)
    (s : RunState) :
    runCase execute c s = (c.report (.failed (sharedPath c.artifacts.expected)) none, s) := by
  unfold runCase
  simp only [if_pos h]
  rfl

theorem touches_runCase (execute : Executor) (c : TestCase) (s : RunState)
    (confined : execute.Confined) :
    Touches c.artifacts.actual s.files (runCase execute c s).2.files := by
  by_cases hsame : c.artifacts.actual.Same c.artifacts.expected
  · rw [runCase_of_same hsame]
    exact .refl
  · rw [(runCase_calls execute hsame s).2]
    exact confined ..

theorem reading_of_keeps {gs : FileSystem} {p : Path} {other : Bytes} {x : Bool}
    (h : p.access (fs.stat p) = .ok (place, .file content executable)) (hkeeps : fs.Keeps gs)
    (he : gs.entry? place = some (.file other x)) : gs.reading p = .ok other := by
  obtain ⟨nul, hstat⟩ := (Path.access_eq_ok_iff ..).mp h
  exact reading_of_stat ((Path.access_eq_ok_iff ..).mpr ⟨nul, hkeeps.stat_file hstat he⟩)

theorem keepsExpected_of_not_opens
    (h : c.artifacts.expected.access (fs.stat c.artifacts.expected) =
      .ok (place, .file content executable))
    (apart : ∀ after, fs.openOutput c.artifacts.actual ≠ (.ok place, after)) :
    c.KeepsExpected fs := by
  rintro execute confined s rfl
  obtain ⟨hkeeps, hentries⟩ := entry?_of_touches (touches_runCase execute c s confined)
  have hplace := entry?_of_stat ((Path.access_eq_ok_iff ..).mp h).2 (by simp)
  rcases hentries place _ hplace with hsame | ⟨after, hopen⟩
  · rw [reading_of_keeps h hkeeps hsame, reading_of_stat h]
  · exact absurd hopen (apart after)

/-- Who writes an output that opens the expected one changes that. -/
theorem reading_overwriting (apart : ¬c.artifacts.actual.Same c.artifacts.expected)
    (h : c.artifacts.expected.access (fs.stat c.artifacts.expected) =
      .ok (place, .file content executable))
    {after : FileSystem} (hopen : fs.openOutput c.artifacts.actual = (.ok place, after))
    (other : Bytes) (s : RunState) (files : s.files = fs) :
    (runCase (.overwriting c.artifacts.actual other) c s).2.files.reading c.artifacts.expected =
      .ok other := by
  subst files
  obtain ⟨x, he⟩ := openOutput_opens hopen
  have hfiles : (runCase (.overwriting c.artifacts.actual other) c s).2.files =
      after.fill place other := by
    rw [(runCase_calls _ apart s).2, Executor.overwriting, if_pos rfl, hopen]
  have hkeeps := (entry?_of_touches (touches_runCase _ c s
    (confined_overwriting c.artifacts.actual other))).1
  rw [hfiles] at hkeeps ⊢
  exact reading_of_keeps h hkeeps (entry?_fill he)

/-- The expected output of a case is safe just if the paths of the two outputs are spelled
alike, so that nothing is started, or opening the actual output opens another file. Where
the actual output is there already, this is just that the two are different files. -/
theorem expected_kept_iff
    (h : c.artifacts.expected.access (fs.stat c.artifacts.expected) =
      .ok (place, .file content executable)) :
    (c.KeepsExpected fs ↔ c.artifacts.actual.Same c.artifacts.expected ∨
      ∀ after, fs.openOutput c.artifacts.actual ≠ (.ok place, after)) ∧
    (∀ other old x, c.artifacts.actual.access (fs.stat c.artifacts.actual) =
        .ok (other, .file old x) →
      (c.KeepsExpected fs ↔ c.artifacts.actual.Same c.artifacts.expected ∨ other ≠ place)) ∧
    (c.artifacts.actual.Same c.artifacts.expected → ∀ (execute : Executor) (s : RunState),
      runCase execute c s = (c.report (.failed (sharedPath c.artifacts.expected)) none, s)) := by
  have hiff : c.KeepsExpected fs ↔ c.artifacts.actual.Same c.artifacts.expected ∨
      ∀ after, fs.openOutput c.artifacts.actual ≠ (.ok place, after) := by
    constructor
    · intro hkeeps
      by_contra hno
      obtain ⟨apart, hopen⟩ := not_or.mp hno
      obtain ⟨after, hopen⟩ := not_forall_not.mp hopen
      have hbefore := hkeeps _ (confined_overwriting c.artifacts.actual (content ++ [0]))
        ⟨fs, [], []⟩ rfl
      rw [reading_overwriting apart h hopen (content ++ [0]) ⟨fs, [], []⟩ rfl,
        reading_of_stat h] at hbefore
      simpa using Except.ok.inj hbefore
    · rintro (hsame | apart)
      · rintro execute confined s rfl
        rw [runCase_of_same hsame]
      · exact keepsExpected_of_not_opens h apart
  refine ⟨hiff, fun other old x hactual => ?_, fun hsame execute s => runCase_of_same hsame execute s⟩
  obtain ⟨nul, hstat⟩ := (Path.access_eq_ok_iff ..).mp hactual
  rw [hiff, openOutput_of_stat nul hstat]
  refine or_congr_right ⟨fun hne heq => ?_, fun hne after heq => ?_⟩
  · exact hne _ (by rw [heq])
  · exact hne (Except.ok.inj (Prod.mk.inj heq).1)

end Expected

/-- The example's expected output is safe: its actual output goes to another directory. -/
theorem expected_kept_iff_example :
    exampleCase.artifacts.expected.access (exampleFiles.stat exampleCase.artifacts.expected) =
        .ok ([Utf8.encode "out1.txt", Utf8.encode "f"], .file [0x31] false) ∧
      exampleCase.KeepsExpected exampleFiles := by
  have hstat : exampleCase.artifacts.expected.access
      (exampleFiles.stat exampleCase.artifacts.expected) =
        .ok ([Utf8.encode "out1.txt", Utf8.encode "f"], .file [0x31] false) := by decide +kernel
  have hopen : (exampleFiles.openOutput exampleCase.artifacts.actual).1 =
      .ok [Utf8.encode "out1.txt", Utf8.encode "o"] := by decide +kernel
  have hne : [Utf8.encode "out1.txt", Utf8.encode "f"] ≠
      [Utf8.encode "out1.txt", Utf8.encode "o"] := by decide +kernel
  refine ⟨hstat, (expected_kept_iff hstat).1.mpr (.inr fun after heq => ?_)⟩
  rw [heq] at hopen
  exact hne (Except.ok.inj hopen)

/-- The example's case with its outputs in one place, one of them spelled with a dot. -/
def dottedCase : TestCase :=
  { exampleCase with artifacts := ⟨.ofString "./f/out1.txt", .ofString "f/out1.txt"⟩ }

/-- Both paths name one file, and yet the program is started; what it writes takes the place
of the expected output, and the case has passed. -/
theorem expected_overwritten_by_other_spelling :
    dottedCase.artifacts.actual.access (exampleFiles.stat dottedCase.artifacts.actual) =
        dottedCase.artifacts.expected.access (exampleFiles.stat dottedCase.artifacts.expected) ∧
      dottedCase.artifacts.expected.access (exampleFiles.stat dottedCase.artifacts.expected) =
        .ok ([Utf8.encode "out1.txt", Utf8.encode "f"], .file [0x31] false) ∧
      ∃ execute : Executor, execute.Confined ∧
        (runCase execute dottedCase ⟨exampleFiles, [], []⟩).2.started = [dottedCase.input] ∧
        (runCase execute dottedCase ⟨exampleFiles, [], []⟩).1.verdict = .passed ∧
        (runCase execute dottedCase ⟨exampleFiles, [], []⟩).2.files.reading
          dottedCase.artifacts.expected = .ok [0x32] :=
  ⟨by decide +kernel, by decide +kernel, .overwriting dottedCase.artifacts.actual [0x32],
    confined_overwriting _ _, by decide +kernel, by decide +kernel, by decide +kernel⟩

/-- A path that cannot be followed yet can be once its directories are made. -/
example : (exampleFiles.openOutput (.ofString "new/../f/out1.txt")).1 =
    .ok [Utf8.encode "out1.txt", Utf8.encode "f"] := by decide +kernel

end GoldenFiles
