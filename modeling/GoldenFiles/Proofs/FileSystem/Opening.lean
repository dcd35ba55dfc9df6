import GoldenFiles.Proofs.FileSystem.Making
import GoldenFiles.Run.Executor

/-!
# Opening and reading a file in a directory

Without links, whoever opens or reads a file by a path with a name at its end
enters the directories before the name and then looks at one entry. What comes
of it depends on that entry alone. Opening an output does the same after all
directories have been made, so nothing that was there before can be in its way
that was not in its way before.
-/

namespace GoldenFiles.FileSystem

/-- Opens the file with a name in a directory for writing. -/
def openIn (fs : FileSystem) (dir : Location) (name : Name) :
    Except Errno (Location × FileSystem) :=
  if maxNameLength < name.length then .error .nameTooLong
  else
    match fs.entry? (name :: dir) with
    | none => .ok (name :: dir, fs.put (name :: dir) (.file [] false))
    | some (.file _ executable) => .ok (name :: dir, fs.put (name :: dir) (.file [] executable))
    | some .directory => .error .isDirectory
    | some (.link _) => .error .tooManyLinks

/-- Reads the file with a name in a directory. -/
def readIn (fs : FileSystem) (dir : Location) (name : Name) : Except Errno Bytes :=
  if maxNameLength < name.length then .error .nameTooLong
  else
    match fs.entry? (name :: dir) with
    | none => .error .noEntry
    | some (.file content _) => .ok content
    | some .directory => .error .isDirectory
    | some (.link _) => .error .tooManyLinks

theorem enter_append (fs : FileSystem) (dir : Location) (names others : List Name) :
    fs.enter dir (names ++ others) = (fs.enter dir names).bind fun d => fs.enter d others := by
  induction names generalizing dir with
  | nil => rfl
  | cons name rest ih =>
      rw [List.cons_append, enter, enter, ih, ih]
      split
      · rfl
      · split
        · rfl
        · split
          · rfl
          · split <;> first | rfl | exact ih _

/-- A walk ends at a directory just if it can be entered; otherwise it fails as
entering fails, or finds what is no directory. -/
theorem walk_enter {fs : FileSystem} (free : fs.LinkFree) (follow : Bool) (links : Nat)
    (dir : Location) (names : List Name) :
    match fs.enter dir names with
    | .ok place => fs.walk follow links dir names = .ok (.entry place .directory)
    | .error e => fs.walk follow links dir names = .error e ∨
        e = .noEntry ∧ (∃ d name, fs.walk follow links dir names = .ok (.absent d name)) ∨
        e = .notDirectory ∧ ∃ place content executable,
          fs.walk follow links dir names = .ok (.entry place (.file content executable)) := by
  rcases List.eq_nil_or_concat names with rfl | ⟨names, last, rfl⟩
  · cases links <;> rfl
  · rw [List.concat_eq_append, walk_concat free, enter_append]
    cases fs.enter dir names with
    | error e => exact .inl rfl
    | ok d =>
        simp only [Except.bind, enter, arrive]
        by_cases hdot : last = Path.dot
        · simp only [if_pos hdot]
        · by_cases hup : last = Path.dotDot
          · simp only [if_neg hdot, if_pos hup]
          · by_cases hlong : maxNameLength < last.length
            · simp only [if_neg hdot, if_neg hup, if_pos hlong, true_or]
            · simp only [if_neg hdot, if_neg hup, if_neg hlong]
              cases he : fs.entry? (last :: d) with
              | none => exact .inr (.inl ⟨rfl, d, last, rfl⟩)
              | some e =>
                  cases e with
                  | directory => rfl
                  | file content executable => exact .inr (.inr ⟨rfl, _, _, _, rfl⟩)
                  | link target => exact absurd he (free _ target)

theorem enter_of_stat {fs : FileSystem} (free : fs.LinkFree) {p : Path} {place : Location}
    (h : fs.stat p = .ok (place, .directory)) :
    fs.enter (start fs.here p) p.names = .ok place := by
  rw [stat_eq_ok_iff, find] at h
  split at h
  · cases h
  · split at h
    · cases h
    · have hwalk := walk_enter free true maxLinks (start fs.here p) (steps p)
      rw [← enter_steps]
      cases henter : fs.enter (start fs.here p) (steps p) with
      | ok dir =>
          rw [henter] at hwalk
          rw [h] at hwalk
          rw [(Found.entry.inj (Except.ok.inj hwalk)).1]
      | error e =>
          rw [henter] at hwalk
          rw [h] at hwalk
          simp at hwalk

/-- A path that can be handed to the system names the directory that it leads to. -/
theorem stat_of_enter {fs : FileSystem} (free : fs.LinkFree) {p : Path} {place : Location}
    (hb : p.bytes ≠ []) (short : p.bytes.length < maxPathLength)
    (h : fs.enter (start fs.here p) p.names = .ok place) :
    fs.stat p = .ok (place, .directory) := by
  have hwalk := walk_enter free true maxLinks (start fs.here p) (steps p)
  rw [enter_steps, h] at hwalk
  rw [stat_eq_ok_iff, find, if_neg hb, if_neg (Nat.not_le.mpr short)]
  exact hwalk

theorem path_of_stat {fs : FileSystem} {p : Path} {found : Location × Entry}
    (h : fs.stat p = .ok found) : p.bytes ≠ [] ∧ p.bytes.length < maxPathLength := by
  rw [stat_eq_ok_iff, find] at h
  split at h
  · cases h
  · next hb =>
      split at h
      · cases h
      · next short => exact ⟨hb, Nat.not_le.mp short⟩

theorem directory_of_stat {fs : FileSystem} (wf : fs.WellFormed) (free : fs.LinkFree) {p : Path}
    {place : Location} (h : fs.stat p = .ok (place, .directory)) :
    fs.entry? place = some .directory :=
  enter_directory wf (start_directory wf p) (enter_of_stat free h)

/-- Opening a file enters the directories before its name and opens it there. -/
theorem create_join {fs : FileSystem} (free : fs.LinkFree) {p : Path} {name : Name}
    (h : Path.NormalName name) :
    fs.create (p.join ⟨name⟩) =
      if maxPathLength ≤ (p.join ⟨name⟩).bytes.length then .error .nameTooLong
      else (fs.enter (start fs.here p) p.names).bind fun d => fs.openIn d name := by
  have hpieces := Path.pieces_join h (p := p)
  have hnames : (p.join ⟨name⟩).pieces.filter (· ≠ []) = p.body.filter (· ≠ []) ++ [name] := by
    rw [hpieces, List.filter_append]
    simp [h.ne_nil]
  have hstart : start fs.here (p.join ⟨name⟩) = start fs.here p := by
    rw [start, start, Path.isAbsolute_join h]
  have hends : ¬(endsInSlash (p.join ⟨name⟩) = true ∨ name = Path.dot ∨ name = Path.dotDot) := by
    simp [endsInSlash_of_last hpieces h.ne_nil, h.ne_dot, h.ne_dotDot]
  rw [create, if_neg (bytes_ne_nil_of_last hpieces h.ne_nil)]
  split
  · rfl
  · show fs.createWith _ fs.here _ = _
    rw [createWith, hnames, List.getLast?_concat, List.dropLast_concat, hstart,
      Path.names_eq_filter_body, ← enter_pieces]
    have hwalk := walk_enter free true maxLinks (start fs.here p) (p.body.filter (· ≠ []))
    cases henter : fs.enter (start fs.here p) (p.body.filter (· ≠ [])) with
    | error e =>
        rw [henter] at hwalk
        rcases hwalk with hw | ⟨rfl, d, n, hw⟩ | ⟨rfl, place, content, executable, hw⟩ <;>
          simp only [hw, Except.bind]
    | ok d =>
        rw [henter] at hwalk
        simp only [hwalk, if_neg hends, Except.bind, openIn]
        split
        · rfl
        · cases he : fs.entry? (name :: d) with
          | none => rfl
          | some e =>
              cases e with
              | directory => rfl
              | file content executable => rfl
              | link target => exact absurd he (free _ target)

/-- Reading a file enters the directories before its name and reads it there. -/
theorem read_join {fs : FileSystem} (free : fs.LinkFree) {p : Path} {name : Name}
    (h : Path.NormalName name) :
    fs.read (p.join ⟨name⟩) =
      if maxPathLength ≤ (p.join ⟨name⟩).bytes.length then .error .nameTooLong
      else (fs.enter (start fs.here p) p.names).bind fun d => fs.readIn d name := by
  rw [read, stat, find_join free true h]
  by_cases hlen : maxPathLength ≤ (p.join ⟨name⟩).bytes.length
  · simp only [if_pos hlen]
  · simp only [if_neg hlen]
    cases fs.enter (start fs.here p) p.names with
    | error e => rfl
    | ok d =>
        simp only [Except.bind, arrive, if_neg h.ne_dot, if_neg h.ne_dotDot, readIn]
        by_cases hlong : maxNameLength < name.length
        · simp only [if_pos hlong]
        · simp only [if_neg hlong]
          cases fs.entry? (name :: d) with
          | none => rfl
          | some e => cases e <;> rfl

/-! ## What opening a file changes -/

theorem openIn_eq_ok {fs gs : FileSystem} {dir loc : Location} {name : Name}
    (h : fs.openIn dir name = .ok (loc, gs)) :
    loc = name :: dir ∧ name.length ≤ maxNameLength ∧ ∃ executable,
      gs = fs.put (name :: dir) (.file [] executable) ∧
        ∀ e, fs.entry? (name :: dir) = some e → ∃ before, e = .file before executable := by
  unfold openIn at h
  split at h
  · cases h
  · next hlong =>
      split at h
      · next he =>
          obtain ⟨rfl, rfl⟩ := Prod.mk.inj (Except.ok.inj h)
          exact ⟨rfl, Nat.not_lt.mp hlong, false, rfl, fun e he' => by rw [he] at he'; cases he'⟩
      · next before executable he =>
          obtain ⟨rfl, rfl⟩ := Prod.mk.inj (Except.ok.inj h)
          refine ⟨rfl, Nat.not_lt.mp hlong, executable, rfl, fun e he' => ⟨before, ?_⟩⟩
          rw [he] at he'
          exact (Option.some.inj he').symm
      · cases h
      · cases h

theorem exists_openIn {fs : FileSystem} {dir : Location} {name : Name}
    (short : name.length ≤ maxNameLength)
    (h : ∀ e, fs.entry? (name :: dir) = some e → ∃ before executable, e = .file before executable) :
    ∃ gs, fs.openIn dir name = .ok (name :: dir, gs) := by
  unfold openIn
  rw [if_neg (Nat.not_lt.mpr short)]
  cases he : fs.entry? (name :: dir) with
  | none => exact ⟨_, rfl⟩
  | some e =>
      obtain ⟨before, executable, rfl⟩ := h e he
      exact ⟨_, rfl⟩

theorem create_eq_ok {fs gs : FileSystem} (free : fs.LinkFree) {p : Path} {name : Name}
    {loc : Location} (h : Path.NormalName name) (hc : fs.create (p.join ⟨name⟩) = .ok (loc, gs)) :
    (p.join ⟨name⟩).bytes.length < maxPathLength ∧ ∃ dir,
      fs.enter (start fs.here p) p.names = .ok dir ∧ fs.openIn dir name = .ok (loc, gs) := by
  rw [create_join free h] at hc
  split at hc
  · cases hc
  · next hlen =>
      cases henter : fs.enter (start fs.here p) p.names with
      | error e => rw [henter] at hc; cases hc
      | ok dir =>
          rw [henter] at hc
          exact ⟨Nat.not_le.mp hlen, dir, rfl, hc⟩

theorem createWith_puts {fs gs : FileSystem}
    {via : Location → Path → Except Errno (Location × FileSystem)} {loc : Location}
    (hvia : ∀ dir target, via dir target = .ok (loc, gs) →
      loc ≠ [] ∧ ∃ executable, gs = fs.put loc (.file [] executable))
    {here : Location} {p : Path} (h : fs.createWith via here p = .ok (loc, gs)) :
    loc ≠ [] ∧ ∃ executable, gs = fs.put loc (.file [] executable) := by
  unfold createWith at h
  simp only [] at h
  split at h
  · cases h
  · next name _ =>
      split at h
      · cases h
      · cases h
      · cases h
      · cases h
      · next dir _ =>
          split at h
          · cases h
          · split at h
            · cases h
            · split at h
              · obtain ⟨rfl, rfl⟩ := Prod.mk.inj (Except.ok.inj h)
                exact ⟨List.cons_ne_nil _ _, _, rfl⟩
              · obtain ⟨rfl, rfl⟩ := Prod.mk.inj (Except.ok.inj h)
                exact ⟨List.cons_ne_nil _ _, _, rfl⟩
              · cases h
              · exact hvia _ _ h

/-- Opening a file sets one entry, whatever links it goes through. -/
theorem create_puts {fs gs : FileSystem} {p : Path} {loc : Location}
    (h : fs.create p = .ok (loc, gs)) :
    loc ≠ [] ∧ ∃ executable, gs = fs.put loc (.file [] executable) := by
  have hvia (links : Nat) : ∀ here q, fs.createVia links here q = .ok (loc, gs) →
      loc ≠ [] ∧ ∃ executable, gs = fs.put loc (.file [] executable) := by
    induction links with
    | zero => exact fun here q hq => createWith_puts (fun _ _ hno => by cases hno) hq
    | succ links ih => exact fun here q hq => createWith_puts ih hq
  unfold create at h
  split at h
  · cases h
  · split at h
    · cases h
    · exact hvia _ _ _ h

theorem create_opens {fs gs : FileSystem} {p : Path} {loc : Location}
    (h : fs.create p = .ok (loc, gs)) : ∃ executable, gs.entry? loc = some (.file [] executable) := by
  obtain ⟨hloc, executable, rfl⟩ := create_puts h
  refine ⟨executable, ?_⟩
  rw [entry?_put fs hloc, if_pos rfl]

theorem entryName_of_join {p : Path} {name : Name} (h : Path.NormalName name)
    (nul : holdsNul (p.join ⟨name⟩).bytes = false) (short : name.length ≤ maxNameLength) :
    EntryName name := by
  refine ⟨h, fun hz => (holdsNul_eq_false_iff _).mp nul ?_, short⟩
  have hmem : name ∈ (p.join ⟨name⟩).pieces := by simp [Path.pieces_join h]
  exact Separated.subset_of_mem_split hmem hz

/-! ## Making the directory of an output -/

theorem makeParent_made {fs : FileSystem} (wf : fs.WellFormed) (free : fs.LinkFree) {p : Path}
    {name : Name} (h : Path.NormalName name)
    (short : (p.join ⟨name⟩).bytes.length < maxPathLength)
    (nul : holdsNul (p.join ⟨name⟩).bytes = false)
    (hopen : ∀ loc ∈ trail (start fs.here p) p.names, fs.Open loc) :
    ∃ gs, fs.makeParent (p.join ⟨name⟩) = (.ok (), gs) ∧
      fs.Made gs (trail (start fs.here p) p.names) := by
  have hbytes := (p.trimmed_prefix).trans (Path.prefix_join h)
  have hstart : start fs.here p.trimmed = start fs.here p := by
    rw [start, start, Path.isAbsolute_trimmed]
  have hnul : holdsNul p.trimmed.bytes = false := (holdsNul_eq_false_iff _).mpr fun hz =>
    (holdsNul_eq_false_iff _).mp nul (hbytes.subset hz)
  obtain ⟨gs, hgs, hmade⟩ := makeNested_made p.names wf free p.trimmed_trim p.names_trimmed
    (Nat.le_refl _) (Nat.lt_of_le_of_lt hbytes.length_le short) hnul (hstart ▸ hopen)
  rw [hstart] at hmade
  rw [makeParent, Path.parent?_join h]
  by_cases hb : p.trimmed.bytes = []
  · have hnames : p.names = [] := by
      rw [← p.names_trimmed, Path.names, Path.pieces, hb]; rfl
    refine ⟨fs, by simp [hb], ?_⟩
    rw [hnames]
    exact .refl wf free (by simp [trail])
  · refine ⟨gs, ?_, hmade⟩
    simp only [if_neg hb]
    rw [makeDirectories, Path.ancestors, hgs]

theorem openOutput_eq_ok {fs gs : FileSystem} {actual : Path} {loc : Location}
    (h : fs.openOutput actual = (.ok loc, gs)) :
    ∃ made, fs.makeParent actual = (.ok (), made) ∧
      actual.access (made.create actual) = .ok (loc, gs) := by
  unfold openOutput at h
  split at h
  · cases h
  · next made hmade =>
      split at h
      · next hc =>
          obtain ⟨hloc, rfl⟩ := Prod.mk.inj h
          exact ⟨made, hmade, Except.ok.inj hloc ▸ hc⟩
      · cases h

end GoldenFiles.FileSystem
