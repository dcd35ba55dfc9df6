import GoldenFiles.Proofs.Discovery
import GoldenFiles.Proofs.FileSystem.Links

/-!
# Entries that are none of discovery's business

A file whose name does not start with the input marker is skipped, and so is a
directory whatever its name. But discovery follows every entry before it looks at
its name, and one that cannot be followed ends it: a link to nothing, a link in a
circle, a link back to the listed directory. So further entries with unrelated
names change nothing as long as each of them is `Followable`, and one that is not
stops everything.

This is also all that can stop it besides the directory itself, which has to be
there and to be one.
-/

namespace GoldenFiles

namespace FileSystem

/-- Whether a listing through links gets past an entry of the directory at `loc`. -/
def Followable (fs : FileSystem) (dir : Path) (loc : Location) (name : Name) : Entry → Prop
  | .link _ => ∃ place e, fs.stat (dir.join ⟨name⟩) = .ok (place, e) ∧ place ≠ loc
  | _ => True

/-- All that one file system holds is in the other one, in its place and unchanged. -/
structure Within (fs gs : FileSystem) : Prop where
  here_eq : gs.here = fs.here
  kept : ∀ {loc e}, fs.entry? loc = some e → gs.entry? loc = some e

section Following

variable {fs gs : FileSystem} {dir : Path} {loc : Location} {listing : List Listed}

theorem exists_follow_iff (fs : FileSystem) (dir : Path) (loc : Location) (name : Name)
    (e : Entry) :
    (∃ listed, fs.follow dir loc name e = .ok listed) ↔ fs.Followable dir loc name e := by
  simp only [follow_eq_ok_iff]
  constructor
  · rintro ⟨listed, -, hentry⟩
    cases e with
    | directory => trivial
    | file => trivial
    | link target =>
        obtain ⟨place, hs, hne⟩ := hentry
        exact ⟨place, listed.entry, hs, hne⟩
  · intro h
    cases e with
    | directory => exact ⟨⟨name, dir.join ⟨name⟩, .directory⟩, ⟨rfl, rfl⟩, rfl⟩
    | file content executable =>
        exact ⟨⟨name, dir.join ⟨name⟩, .file content executable⟩, ⟨rfl, rfl⟩, rfl⟩
    | link target =>
        obtain ⟨place, e, hs, hne⟩ := h
        exact ⟨⟨name, dir.join ⟨name⟩, e⟩, ⟨rfl, rfl⟩, place, hs, hne⟩

/-- A directory has a listing just if each of its entries can be followed. -/
theorem exists_lists_iff : (∃ listing, fs.Lists dir loc listing) ↔
    ∀ name e, fs.entry? (name :: loc) = some e → fs.Followable dir loc name e := by
  constructor
  · rintro ⟨listing, h⟩ name e he
    obtain ⟨listed, -, hf⟩ := exists_right_of_forall₂ h ((mem_children_iff ..).mpr he)
    exact (exists_follow_iff ..).mp ⟨listed, hf⟩
  · intro h
    exact exists_lists fun name target he => h name (.link target) he

theorem Within.keeps (h : fs.Within gs) : fs.Keeps gs :=
  ⟨h.here_eq, fun he => ⟨_, h.kept he, rfl⟩⟩

/-- What a path names it names in any larger file system as well. -/
theorem Within.stat (h : fs.Within gs) {p : Path} {place : Location} {e : Entry}
    (hs : fs.stat p = .ok (place, e)) : gs.stat p = .ok (place, e) := by
  obtain ⟨e', hs', hshape⟩ := h.keeps.stat hs
  have hsame : e' = e := by
    by_cases he : e = .directory
    · subst he
      cases e' <;> first | rfl | cases hshape
    · have he' : e' ≠ .directory := by
        rintro rfl
        cases e <;> first | exact he rfl | cases hshape
      exact Option.some.inj ((entry?_of_stat hs' he').symm.trans (h.kept (entry?_of_stat hs he)))
  rw [hs', hsame]

theorem Within.followable (h : fs.Within gs) {name : Name} {e : Entry}
    (hf : fs.Followable dir loc name e) : gs.Followable dir loc name e := by
  cases e with
  | directory => trivial
  | file => trivial
  | link target =>
      obtain ⟨place, e, hs, hne⟩ := hf
      exact ⟨place, e, h.stat hs, hne⟩

/-- An entry that could be followed is followed to the same thing. -/
theorem Within.follow (h : fs.Within gs) {name : Name} {e : Entry} {listed : Listed}
    (hf : fs.follow dir loc name e = .ok listed) : gs.follow dir loc name e = .ok listed := by
  rw [follow_eq_ok_iff] at hf ⊢
  refine ⟨hf.1, ?_⟩
  cases e with
  | directory => exact hf.2
  | file => exact hf.2
  | link target =>
      obtain ⟨place, hs, hne⟩ := hf.2
      exact ⟨place, h.stat hs, hne⟩

/-- A larger directory's listing has the old lines, and lines for what is new. -/
theorem Within.mem_listing (h : fs.Within gs) {other : List Listed} (hl : fs.Lists dir loc listing)
    (hl' : gs.Lists dir loc other) {listed : Listed} (hmem : listed ∈ other) :
    listed ∈ listing ∨ fs.entry? (listed.name :: loc) = none := by
  obtain ⟨e, he, hf⟩ := (hl'.mem_iff listed).mp hmem
  cases hold : fs.entry? (listed.name :: loc) with
  | none => exact .inr rfl
  | some old =>
      -- the entry was there before, and following it led to the same line
      obtain rfl : old = e := Option.some.inj ((h.kept hold).symm.trans he)
      obtain ⟨line, hline, hf'⟩ := exists_right_of_forall₂ hl ((mem_children_iff ..).mpr hold)
      obtain rfl : line = listed := Except.ok.inj ((h.follow hf').symm.trans hf)
      exact .inl hline

theorem Within.mem_of_mem (h : fs.Within gs) {other : List Listed} (hl : fs.Lists dir loc listing)
    (hl' : gs.Lists dir loc other) {listed : Listed} (hmem : listed ∈ listing) :
    listed ∈ other := by
  obtain ⟨e, he, hf⟩ := (hl.mem_iff listed).mp hmem
  exact (hl'.mem_iff listed).mpr ⟨e, h.kept he, h.follow hf⟩

/-- A new entry leaves all others as they are. -/
theorem within_put {name : Name} {e : Entry} (absent : fs.entry? (name :: loc) = none) :
    fs.Within (fs.put (name :: loc) e) := by
  refine ⟨here_put .., fun {place old} hold => ?_⟩
  rw [entry?_put fs (List.cons_ne_nil name loc), if_neg]
  · exact hold
  · rintro rfl
    rw [absent] at hold
    cases hold

end Following

end FileSystem

theorem Utf8.encode_prefix {a b : String} (h : a.toList <+: b.toList) : encode a <+: encode b := by
  obtain ⟨rest, h⟩ := h
  refine ⟨encodeChars rest, ?_⟩
  rw [encode, encode, ← h, encodeChars, encodeChars, encodeChars, List.flatMap_append]

namespace Discovery

/-- A line without the input marker is neither a fixture nor a rejection. -/
theorem judge_of_unmarked {scheme : Scheme} {listed : Listed}
    (h : ¬Utf8.encode scheme.inputMarker <+: listed.name) : judge scheme listed = none := by
  by_contra hjudge
  obtain ⟨found, hfound⟩ := Option.ne_none_iff_exists'.mp hjudge
  obtain ⟨name, hfile⟩ := isFile_of_judge hfound
  rw [hfile.name_eq] at h
  have hunrelated := (Scheme.classify_eq_unrelated_iff scheme name).mpr (mt Utf8.encode_prefix h)
  rw [judge_eq scheme hfile, hunrelated] at hfound
  cases hfound

end Discovery

/-- Where names can be matched, discovery succeeds just if the directory is one and each
of its entries can be followed. -/
theorem discover_succeeds_iff {host : Host} {scheme : Scheme} (matched : host.Matches scheme)
    (fs : FileSystem) (dir : Path) : (∃ found, discover fs dir scheme host = .ok found) ↔
      ∃ loc, dir.access (fs.stat dir) = .ok (loc, .directory) ∧
        ∀ name e, fs.entry? (name :: loc) = some e → fs.Followable dir loc name e := by
  simp only [discover_eq_ok_iff]
  constructor
  · rintro ⟨found, -, loc, listing, hdir, hl, rfl⟩
    exact ⟨loc, hdir, FileSystem.exists_lists_iff.mp ⟨listing, hl⟩⟩
  · rintro ⟨loc, hdir, h⟩
    obtain ⟨listing, hl⟩ := FileSystem.exists_lists_iff.mpr h
    exact ⟨_, matched, loc, listing, hdir, hl, rfl⟩

/-- An entry that a directory of the larger one of two file systems has in addition. -/
structure FileSystem.Further (fs gs : FileSystem) (loc : Location) (name : Name) (e : Entry) :
    Prop where
  there : gs.entry? (name :: loc) = some e
  absent : fs.entry? (name :: loc) = none

section Further

variable {fs gs : FileSystem} {dir : Path} {loc : Location} {scheme : Scheme}

/-- The larger directory has a listing just if what is new in it can be followed. -/
theorem FileSystem.Within.exists_lists_iff (within : fs.Within gs) {listing : List Listed}
    (h : fs.Lists dir loc listing) : (∃ other, gs.Lists dir loc other) ↔
      ∀ name e, fs.Further gs loc name e → gs.Followable dir loc name e := by
  rw [FileSystem.exists_lists_iff]
  constructor
  · exact fun followable name e further => followable name e further.there
  · intro followable name e he
    cases hold : fs.entry? (name :: loc) with
    | none => exact followable name e ⟨he, hold⟩
    | some old =>
        obtain rfl : old = e := Option.some.inj ((within.kept hold).symm.trans he)
        exact within.followable (FileSystem.exists_lists_iff.mp ⟨listing, h⟩ name old hold)

/-- Lines for further entries with unrelated names add nothing to what is found. -/
theorem ofListing_of_unrelated (wf : fs.WellFormed) (wf' : gs.WellFormed) (within : fs.Within gs)
    {listing other : List Listed} (h : fs.Lists dir loc listing) (h' : gs.Lists dir loc other)
    (unrelated : ∀ name e, fs.Further gs loc name e →
      ¬Utf8.encode scheme.inputMarker <+: name) :
    Discovery.ofListing scheme listing = Discovery.ofListing scheme other := by
  refine Discovery.ofListing_eq_of_judged wf wf' h h' fun item => ⟨?_, ?_⟩
  · rintro ⟨listed, hmem, hjudge⟩
    exact ⟨listed, within.mem_of_mem h h' hmem, hjudge⟩
  · rintro ⟨listed, hmem, hjudge⟩
    refine ⟨listed, (within.mem_listing h h' hmem).resolve_right fun absent => ?_, hjudge⟩
    obtain ⟨e, he, -⟩ := (h'.mem_iff listed).mp hmem
    rw [Discovery.judge_of_unmarked (unrelated _ e ⟨he, absent⟩)] at hjudge
    cases hjudge

/-- Entries with unrelated names that are added to a directory leave what is
discovered in it as it was, just if each of them can be followed. -/
theorem unrelated_entries_ignored_iff {host : Host} {found : Discovery} (wf : fs.WellFormed)
    (wf' : gs.WellFormed) (within : fs.Within gs)
    (place : dir.access (fs.stat dir) = .ok (loc, .directory))
    (h : discover fs dir scheme host = .ok found)
    (unrelated : ∀ name e, fs.Further gs loc name e →
      ¬Utf8.encode scheme.inputMarker <+: name) :
    (discover gs dir scheme host = .ok found ↔
      ∀ name e, fs.Further gs loc name e → gs.Followable dir loc name e) ∧
    ∀ (hs : FileSystem) (p : Path), (∃ found, discover hs p scheme host = .ok found) ↔
      ∃ loc, p.access (hs.stat p) = .ok (loc, .directory) ∧
        ∀ name e, hs.entry? (name :: loc) = some e → hs.Followable p loc name e := by
  obtain ⟨matched, loc', listing, place', hl, rfl⟩ := (discover_eq_ok_iff ..).mp h
  refine ⟨?_, discover_succeeds_iff matched⟩
  obtain ⟨rfl, -⟩ := Prod.mk.inj (Except.ok.inj (place.symm.trans place'))
  have place' : dir.access (gs.stat dir) = .ok (loc, .directory) := by
    obtain ⟨hnul, hs⟩ := (Path.access_eq_ok_iff ..).mp place
    exact (Path.access_eq_ok_iff ..).mpr ⟨hnul, within.stat hs⟩
  rw [← within.exists_lists_iff hl, discover_eq_ok_iff, and_iff_right matched]
  constructor
  · rintro ⟨loc', other, place'', hl', -⟩
    obtain ⟨rfl, -⟩ := Prod.mk.inj (Except.ok.inj (place'.symm.trans place''))
    exact ⟨other, hl'⟩
  · rintro ⟨other, hl'⟩
    exact ⟨loc, other, place', hl', ofListing_of_unrelated wf wf' within hl hl' unrelated⟩

end Further

/-- A directory with one input. -/
def loneFiles : FileSystem where
  entries :=
    [([Utf8.encode "f"], .directory), ([Utf8.encode "in1.py", Utf8.encode "f"], .file [] false)]
  here := []
  distinct := by decide +kernel

/-- The same with a link beside the input. -/
def linkedFiles (target : String) : FileSystem :=
  loneFiles.put [Utf8.encode "notes", Utf8.encode "f"] (.link (.ofString target))

/-- What is discovered in either. -/
def loneDiscovery : Discovery := ⟨[⟨⟨"1"⟩, .ofString "f/in1.py"⟩], []⟩

theorem discover_loneFiles : discover loneFiles (.ofString "f") {} = .ok loneDiscovery := by
  have hlist : loneFiles.list (.ofString "f") =
      .ok [⟨Utf8.encode "in1.py", .ofString "f/in1.py", .file [] false⟩] := by decide +kernel
  rw [discover_of_list (Host.matches_default _) hlist (by decide +kernel) (by decide +kernel)]
  decide +kernel

theorem further_linkedFiles {target : String} {name : Name} {e : Entry}
    (h : loneFiles.Further (linkedFiles target) [Utf8.encode "f"] name e) :
    name = Utf8.encode "notes" ∧ e = .link (.ofString target) := by
  have there := h.there
  rw [linkedFiles, FileSystem.entry?_put _ (by simp)] at there
  split at there
  · next heq => exact ⟨(List.cons.inj heq).1, (Option.some.inj there).symm⟩
  · rw [h.absent] at there
    cases there

theorem unrelated_entries_ignored_iff_example :
    loneFiles.Within (linkedFiles "in1.py") ∧
      discover loneFiles (.ofString "f") {} = .ok loneDiscovery ∧
      discover (linkedFiles "in1.py") (.ofString "f") {} = .ok loneDiscovery := by
  have absent : loneFiles.entry? [Utf8.encode "notes", Utf8.encode "f"] = none := by decide +kernel
  have within : loneFiles.Within (linkedFiles "in1.py") := FileSystem.within_put absent
  have place : (Path.ofString "f").access (loneFiles.stat (.ofString "f")) =
      .ok ([Utf8.encode "f"], .directory) := by decide +kernel
  refine ⟨within, discover_loneFiles, ?_⟩
  refine (unrelated_entries_ignored_iff (by decide +kernel) (by decide +kernel) within place
    discover_loneFiles ?_).1.mpr ?_
  · intro name e further
    rw [(further_linkedFiles further).1]
    decide
  · intro name e further
    obtain ⟨rfl, rfl⟩ := further_linkedFiles further
    exact ⟨[Utf8.encode "in1.py", Utf8.encode "f"], .file [] false, by decide +kernel, by decide⟩

/-- A link to nothing ends discovery, though its name does not start with the marker. -/
theorem unrelated_link_stops_discovery :
    discover loneFiles (.ofString "f") {} = .ok loneDiscovery ∧
      loneFiles.Further (linkedFiles "gone") [Utf8.encode "f"] (Utf8.encode "notes")
        (.link (.ofString "gone")) ∧
      ({} : Scheme).classify "notes" = .unrelated ∧
      discover (linkedFiles "gone") (.ofString "f") {} =
        .error (.discovery (.ofString "f") (.entry (.ofString "f/notes") (.os .noEntry))) := by
  have hlist : (linkedFiles "gone").list (.ofString "f") =
      .error (.entry (.ofString "f/notes") (.os .noEntry)) := by decide +kernel
  refine ⟨discover_loneFiles, ⟨by decide +kernel, by decide +kernel⟩, by decide, ?_⟩
  rw [discover, hlist]

end GoldenFiles
