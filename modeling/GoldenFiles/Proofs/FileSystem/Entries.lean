import GoldenFiles.FileSystem.Lookup
import GoldenFiles.Proofs.Path.Components

/-!
# What a file system has where

`put` is described completely by what `entry?` answers afterwards, and two file
systems that answer alike are one and the same to whoever only asks. Their
entries may still be listed in another order, so `Agrees` and not equality is
what runs in different orders can have in common.

Not every finite map is a file system that a disk could hold. In one that is
`WellFormed` every name is one that a directory can hold, every entry stands in
a directory, and so does whoever looks. `LinkFree` is the other thing that the
results on directories ask for: on a file system with symbolic links a path
does not say where it leads.
-/

namespace GoldenFiles

/-- A name that a directory can hold. -/
structure EntryName (name : Name) : Prop extends Path.NormalName name where
  no_nul : 0 ∉ name
  short : name.length ≤ FileSystem.maxNameLength

theorem entryName_iff (name : Name) : EntryName name ↔ name ≠ [] ∧ name ≠ Path.dot ∧
    name ≠ Path.dotDot ∧ Path.slash ∉ name ∧ 0 ∉ name ∧ name.length ≤ FileSystem.maxNameLength := by
  constructor
  · exact fun h => ⟨h.ne_nil, h.ne_dot, h.ne_dotDot, h.no_slash, h.no_nul, h.short⟩
  · rintro ⟨hnil, hdot, hdots, hslash, hnul, hshort⟩
    exact ⟨⟨hnil, hdot, hdots, hslash⟩, hnul, hshort⟩

instance (name : Name) : Decidable (EntryName name) := decidable_of_iff' _ (entryName_iff name)

/-- Whether an entry is a symbolic link. -/
def Entry.isLink : Entry → Bool
  | .link _ => true
  | _ => false

namespace FileSystem

@[simp] theorem entry?_root (fs : FileSystem) : fs.entry? [] = some .directory := rfl

theorem entry?_of_ne {loc : Location} (fs : FileSystem) (h : loc ≠ []) :
    fs.entry? loc = fs.entries.lookup loc := if_neg h

theorem lookup_replaced (loc l : Location) (e : Entry) (entries : List (Location × Entry)) :
    (replaced loc e entries).lookup l =
      if l = loc then (if loc ∈ entries.map Prod.fst then some e else none)
      else entries.lookup l := by
  induction entries with
  | nil => simp [replaced]
  | cons pair rest ih =>
      obtain ⟨k, v⟩ := pair
      simp only [replaced, List.map_cons] at ih ⊢
      by_cases hk : k = loc
      · subst hk
        rw [if_pos rfl, List.lookup_cons, ih]
        by_cases hl : l = k
        · simp [hl]
        · simp [hl, List.lookup_cons, beq_eq_false_iff_ne.mpr hl]
      · rw [if_neg hk, List.lookup_cons, ih]
        by_cases hl : l = loc
        · subst hl
          have hmem : l ∈ k :: rest.map Prod.fst ↔ l ∈ rest.map Prod.fst := by
            rw [List.mem_cons]
            exact or_iff_right (Ne.symm hk)
          simp only [beq_eq_false_iff_ne.mpr (Ne.symm hk), if_true, hmem]
        · simp [hl, List.lookup_cons]

theorem lookup_append_of_not_mem {loc l : Location} {e : Entry}
    {entries : List (Location × Entry)} (h : loc ∉ entries.map Prod.fst) :
    (entries ++ [(loc, e)]).lookup l = if l = loc then some e else entries.lookup l := by
  induction entries with
  | nil =>
      by_cases hl : l = loc
      · simp [hl]
      · simp [hl, List.lookup_cons, beq_eq_false_iff_ne.mpr hl]
  | cons pair rest ih =>
      obtain ⟨k, v⟩ := pair
      obtain ⟨hk, hrest⟩ : loc ≠ k ∧ loc ∉ rest.map Prod.fst := by
        simpa using h
      rw [List.cons_append, List.lookup_cons, List.lookup_cons, ih hrest]
      by_cases hl : l = loc
      · subst hl
        simp [beq_eq_false_iff_ne.mpr hk]
      · simp [hl]

/-- What is where after an entry has been set. -/
theorem entry?_put (fs : FileSystem) {loc : Location} (hloc : loc ≠ []) (e : Entry)
    (l : Location) : entry? (fs.put loc e) l = if l = loc then some e else fs.entry? l := by
  by_cases hl : l = []
  · subst hl
    simp [Ne.symm hloc]
  · rw [entry?_of_ne _ hl, entry?_of_ne _ hl, put]
    split
    · next h => rw [lookup_replaced, if_pos h]
    · next h => exact lookup_append_of_not_mem h

@[simp] theorem here_put (fs : FileSystem) (loc : Location) (e : Entry) :
    (fs.put loc e).here = fs.here := by
  unfold put
  split <;> rfl

theorem replaced_of_not_mem {loc : Location} {e : Entry} {entries : List (Location × Entry)}
    (h : loc ∉ entries.map Prod.fst) : replaced loc e entries = entries := by
  have hid : ∀ pair ∈ entries, (if pair.1 = loc then (loc, e) else pair) = id pair := by
    intro pair hpair
    refine if_neg ?_
    rintro rfl
    exact h (List.mem_map_of_mem hpair)
  rw [replaced, List.map_congr_left hid, List.map_id]

theorem replaced_replaced (loc : Location) (old e : Entry) (entries : List (Location × Entry)) :
    replaced loc e (replaced loc old entries) = replaced loc e entries := by
  simp only [replaced, List.map_map]
  refine List.map_congr_left fun pair _ => ?_
  by_cases h : pair.1 = loc <;> simp [h]

theorem entries_put_of_mem {fs : FileSystem} {loc : Location} (h : loc ∈ fs.entries.map Prod.fst)
    (e : Entry) : (fs.put loc e).entries = replaced loc e fs.entries := by rw [put, dif_pos h]

theorem entries_put_of_not_mem {fs : FileSystem} {loc : Location}
    (h : loc ∉ fs.entries.map Prod.fst) (e : Entry) :
    (fs.put loc e).entries = fs.entries ++ [(loc, e)] := by rw [put, dif_neg h]

/-- Of two entries that are set at one location, one after the other, the later one is
all that is left. -/
theorem put_put (fs : FileSystem) (loc : Location) (old e : Entry) :
    (fs.put loc old).put loc e = fs.put loc e := by
  have hentries : ((fs.put loc old).put loc e).entries = (fs.put loc e).entries := by
    by_cases h : loc ∈ fs.entries.map Prod.fst
    · rw [entries_put_of_mem, entries_put_of_mem h, entries_put_of_mem h, replaced_replaced]
      rwa [entries_put_of_mem h, map_fst_replaced]
    · rw [entries_put_of_mem, entries_put_of_not_mem h, entries_put_of_not_mem h, replaced,
        List.map_append, ← replaced, replaced_of_not_mem h]
      · simp
      · simp [entries_put_of_not_mem h]
  have hhere : ((fs.put loc old).put loc e).here = (fs.put loc e).here := by simp only [here_put]
  generalize (fs.put loc old).put loc e = twice at hentries hhere
  generalize fs.put loc e = once at hentries hhere
  obtain ⟨entries, here, distinct⟩ := twice
  subst hentries hhere
  rfl

theorem lookup_eq_some_iff {entries : List (Location × Entry)}
    (h : (entries.map Prod.fst).Nodup) (loc : Location) (e : Entry) :
    entries.lookup loc = some e ↔ (loc, e) ∈ entries := by
  induction entries with
  | nil => simp
  | cons pair rest ih =>
      obtain ⟨k, v⟩ := pair
      obtain ⟨hk, hrest⟩ := List.nodup_cons.mp h
      rw [List.lookup_cons, List.mem_cons, Prod.mk.injEq]
      by_cases hl : loc = k
      · subst hl
        have hnot : (loc, e) ∉ rest := fun hmem => hk (List.mem_map.mpr ⟨_, hmem, rfl⟩)
        simp [hnot, eq_comm]
      · simp [hl, beq_eq_false_iff_ne.mpr hl, ih hrest]

theorem entry?_eq_some_iff (fs : FileSystem) {loc : Location} (hloc : loc ≠ []) (e : Entry) :
    fs.entry? loc = some e ↔ (loc, e) ∈ fs.entries := by
  rw [entry?_of_ne fs hloc, lookup_eq_some_iff fs.distinct]

theorem mem_children_iff (fs : FileSystem) (dir : Location) (name : Name) (e : Entry) :
    (name, e) ∈ fs.children dir ↔ fs.entry? (name :: dir) = some e := by
  rw [entry?_eq_some_iff fs (by simp)]
  unfold children
  rw [List.mem_filterMap]
  constructor
  · rintro ⟨⟨loc, v⟩, hmem, h⟩
    cases loc with
    | nil => simp at h
    | cons n parent =>
        simp only [Option.ite_none_right_eq_some, Option.some.injEq, Prod.mk.injEq] at h
        obtain ⟨rfl, rfl, rfl⟩ := h
        exact hmem
  · intro hmem
    exact ⟨_, hmem, by simp⟩

theorem nodup_children (fs : FileSystem) (dir : Location) :
    ((fs.children dir).map Prod.fst).Nodup := by
  unfold children
  rw [List.map_filterMap]
  have hpair : fs.entries.Pairwise fun a b => a.1 ≠ b.1 := List.pairwise_map.mp fs.distinct
  refine (List.pairwise_filterMap.mpr (hpair.imp ?_))
  rintro ⟨a, u⟩ ⟨b, v⟩ hab n hn m hm rfl
  cases a with
  | nil => simp at hn
  | cons x xs =>
      cases b with
      | nil => simp at hm
      | cons y ys =>
          simp only [Option.map_eq_some_iff, Option.ite_none_right_eq_some, Option.some.injEq,
            Prod.exists, Prod.mk.injEq] at hn hm
          grind

/-- Two file systems that nobody who asks for entries can tell apart. -/
structure Agrees (fs gs : FileSystem) : Prop where
  here_eq : fs.here = gs.here
  entry?_eq : ∀ loc, fs.entry? loc = gs.entry? loc

theorem Agrees.refl (fs : FileSystem) : fs.Agrees fs := ⟨rfl, fun _ => rfl⟩

theorem Agrees.symm {fs gs : FileSystem} (h : fs.Agrees gs) : gs.Agrees fs :=
  ⟨h.here_eq.symm, fun loc => (h.entry?_eq loc).symm⟩

theorem Agrees.trans {fs gs hs : FileSystem} (h : fs.Agrees gs) (h' : gs.Agrees hs) :
    fs.Agrees hs :=
  ⟨h.here_eq.trans h'.here_eq, fun loc => (h.entry?_eq loc).trans (h'.entry?_eq loc)⟩

/-- The order in which directories list their entries does not show in any of them. -/
theorem agrees_of_perm {fs gs : FileSystem} (here : fs.here = gs.here)
    (h : fs.entries.Perm gs.entries) : fs.Agrees gs := by
  refine ⟨here, fun loc => ?_⟩
  by_cases hl : loc = []
  · rw [hl]; rfl
  · rw [entry?_of_ne _ hl, entry?_of_ne _ hl]
    ext e
    rw [lookup_eq_some_iff fs.distinct, lookup_eq_some_iff gs.distinct, h.mem_iff]

/-- A file system that a disk could hold, seen from a directory in it. -/
structure WellFormed (fs : FileSystem) : Prop where
  names : ∀ {loc e}, fs.entry? loc = some e → ∀ name ∈ loc, EntryName name
  parents : ∀ {name dir e}, fs.entry? (name :: dir) = some e → fs.entry? dir = some .directory
  here : fs.entry? fs.here = some .directory

/-- A file system without symbolic links. -/
def LinkFree (fs : FileSystem) : Prop := ∀ loc target, fs.entry? loc ≠ some (.link target)

/-- Looking at the stored entries is enough to tell. -/
theorem wellFormed_iff (fs : FileSystem) : fs.WellFormed ↔
    (∀ pair ∈ fs.entries, pair.1 ≠ [] →
      (∀ name ∈ pair.1, EntryName name) ∧ fs.entry? pair.1.tail = some .directory) ∧
    fs.entry? fs.here = some .directory := by
  constructor
  · refine fun wf => ⟨?_, wf.here⟩
    rintro ⟨loc, e⟩ hmem hloc
    have he := (entry?_eq_some_iff fs hloc e).mpr hmem
    refine ⟨wf.names he, ?_⟩
    cases loc with
    | nil => exact absurd rfl hloc
    | cons name dir => exact wf.parents he
  · rintro ⟨hentries, hhere⟩
    refine ⟨?_, ?_, hhere⟩
    · intro loc e he name hname
      have hloc : loc ≠ [] := List.ne_nil_of_mem hname
      exact (hentries _ ((entry?_eq_some_iff fs hloc e).mp he) hloc).1 name hname
    · intro name dir e he
      exact (hentries _ ((entry?_eq_some_iff fs (by simp) e).mp he) (by simp)).2

instance (fs : FileSystem) : Decidable fs.WellFormed := decidable_of_iff' _ fs.wellFormed_iff

theorem linkFree_iff (fs : FileSystem) : fs.LinkFree ↔
    ∀ pair ∈ fs.entries, pair.1 ≠ [] → pair.2.isLink = false := by
  constructor
  · rintro free ⟨loc, e⟩ hmem hloc
    cases e with
    | link target => exact absurd ((entry?_eq_some_iff fs hloc _).mpr hmem) (free loc target)
    | directory => rfl
    | file => rfl
  · intro h loc target he
    have hloc : loc ≠ [] := by rintro rfl; simp at he
    have := h _ ((entry?_eq_some_iff fs hloc _).mp he) hloc
    simp [Entry.isLink] at this

instance (fs : FileSystem) : Decidable fs.LinkFree := decidable_of_iff' _ fs.linkFree_iff

theorem WellFormed.entryName {fs : FileSystem} (wf : fs.WellFormed) {name : Name} {dir : Location}
    {e : Entry} (h : fs.entry? (name :: dir) = some e) : EntryName name :=
  wf.names h name List.mem_cons_self

/-- Above an entry there are only directories. -/
theorem WellFormed.directory_of_suffix {fs : FileSystem} (wf : fs.WellFormed)
    {above : Location} : ∀ {loc : Location} {e : Entry}, fs.entry? loc = some e →
    above <:+ loc → above ≠ loc → fs.entry? above = some .directory := by
  intro loc
  induction loc with
  | nil => intro e _ hs hne; exact absurd (List.suffix_nil.mp hs) hne
  | cons name dir ih =>
      intro e h hs hne
      have hdir := wf.parents h
      rcases List.suffix_cons_iff.mp hs with heq | hs
      · exact absurd heq hne
      · by_cases heq : above = dir
        · rw [heq]; exact hdir
        · exact ih hdir hs heq

theorem WellFormed.directory_tail {fs : FileSystem} (wf : fs.WellFormed) {dir : Location}
    (h : fs.entry? dir = some .directory) : fs.entry? dir.tail = some .directory := by
  cases dir with
  | nil => exact h
  | cons name dir => exact wf.parents h

/-- An entry may be set in a directory, under a name it can hold, wherever that
does not put anything below a file. -/
theorem WellFormed.put {fs : FileSystem} (wf : fs.WellFormed) {name : Name} {dir : Location}
    {e : Entry} (hname : EntryName name) (hdir : fs.entry? dir = some .directory)
    (hold : fs.entry? (name :: dir) = some .directory → e = .directory) :
    (fs.put (name :: dir) e).WellFormed := by
  have hput := fs.entry?_put (List.cons_ne_nil name dir) e
  -- a directory stays one: only the new entry is set, and it replaces no directory
  have hkept {loc : Location} (h : fs.entry? loc = some .directory) :
      entry? (fs.put (name :: dir) e) loc = some .directory := by
    rw [hput]
    split
    · next heq => rw [hold (heq ▸ h)]
    · exact h
  refine ⟨?_, ?_, ?_⟩
  · intro loc v h n hn
    rw [hput] at h
    split at h
    · next heq =>
        subst heq
        rcases List.mem_cons.mp hn with rfl | hn
        · exact hname
        · exact wf.names hdir n hn
    · exact wf.names h n hn
  · intro n d v h
    rw [hput] at h
    split at h
    · next heq =>
        obtain ⟨rfl, rfl⟩ := List.cons.inj heq
        exact hkept hdir
    · exact hkept (wf.parents h)
  · rw [here_put]
    exact hkept wf.here

theorem LinkFree.put {fs : FileSystem} (free : fs.LinkFree) {loc : Location} {e : Entry}
    (hloc : loc ≠ []) (he : ∀ target, e ≠ .link target) : (fs.put loc e).LinkFree := by
  intro l target h
  rw [entry?_put fs hloc] at h
  split at h
  · exact he target (Option.some.inj h)
  · exact free l target h

theorem WellFormed.congr {fs gs : FileSystem} (wf : fs.WellFormed) (h : fs.Agrees gs) :
    gs.WellFormed where
  names := fun he => wf.names ((h.entry?_eq _).trans he)
  parents := fun he => (h.entry?_eq _).symm.trans (wf.parents ((h.entry?_eq _).trans he))
  here := by rw [← h.here_eq, ← h.entry?_eq]; exact wf.here

theorem LinkFree.congr {fs gs : FileSystem} (free : fs.LinkFree) (h : fs.Agrees gs) :
    gs.LinkFree := fun loc target he => free loc target ((h.entry?_eq loc).trans he)

end FileSystem

end GoldenFiles
