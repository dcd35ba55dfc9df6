import GoldenFiles.Proofs.FileSystem.Listing
import GoldenFiles.Proofs.FileSystem.Opening
import GoldenFiles.Proofs.Run.Pool

/-!
# The entries keep their places

`Agrees` says that two file systems have the same entries, and leaves open in
which order their directories list them. What a case does to a file system never
changes that order: `put` sets an entry where it stands, or behind all others. So
a file system that a run has left and one that came of it by further calls are
the same to the last detail as soon as they agree.

A task's calls are followed with the terms that ask nothing of the others and
promise just this, so that the rules for `Task.Safe` and for pools do the rest.
-/

namespace GoldenFiles

open FileSystem GoldenFiles.Task

namespace FileSystem

/-- What setting entries leaves of a file system and of the order of its entries. -/
structure Extends (fs gs : FileSystem) : Prop where
  here_eq : gs.here = fs.here
  keys : fs.entries.map Prod.fst <+: gs.entries.map Prod.fst
  /-- The root is always a directory, so an entry that is stored for it is never seen. -/
  root_eq : gs.entries.lookup [] = fs.entries.lookup []

section Order

variable {fs gs hs : FileSystem} {p : Path} {loc : Location} {e : Entry}

theorem Extends.refl (fs : FileSystem) : fs.Extends fs := ⟨rfl, List.prefix_rfl, rfl⟩

theorem Extends.trans (h : fs.Extends gs) (h' : gs.Extends hs) : fs.Extends hs :=
  ⟨h'.here_eq.trans h.here_eq, h.keys.trans h'.keys, h'.root_eq.trans h.root_eq⟩

theorem extends_put (fs : FileSystem) (hloc : loc ≠ []) (e : Entry) : fs.Extends (fs.put loc e) := by
  refine ⟨here_put fs loc e, ?_, ?_⟩
  · unfold put
    split
    · show _ <+: (replaced loc e fs.entries).map Prod.fst
      simp [map_fst_replaced]
    · rw [List.map_append]
      exact List.prefix_append _ _
  · unfold put
    split
    · rw [lookup_replaced, if_neg hloc.symm]
    · next h => rw [lookup_append_of_not_mem h, if_neg hloc.symm]

theorem extends_makeDirectory (h : fs.makeDirectory p = .ok gs) : fs.Extends gs := by
  unfold makeDirectory at h
  split at h
  · rw [← Except.ok.inj h]
    exact extends_put fs (List.cons_ne_nil _ _) _
  · cases h
  · cases h

theorem extends_create (h : fs.create p = .ok (loc, gs)) : fs.Extends gs := by
  obtain ⟨hloc, executable, rfl⟩ := create_puts h
  exact extends_put fs hloc _

theorem extends_fill (fs : FileSystem) (loc : Location) (content : Bytes) :
    fs.Extends (fs.fill loc content) := by
  unfold fill
  split
  · next he =>
      have hloc : loc ≠ [] := by rintro rfl; cases he
      exact extends_put fs hloc _
  · exact .refl fs

theorem lookup_of_not_mem {entries : List (Location × Entry)}
    (h : loc ∉ entries.map Prod.fst) : entries.lookup loc = none := by
  rw [List.lookup_eq_none_iff]
  intro pair hmem
  rw [bne_iff_ne]
  rintro rfl
  exact h (List.mem_map_of_mem hmem)

/-- Two lists of entries that are asked alike are the same if one has its keys in the
order of the other. -/
theorem eq_of_lookup_eq {entries others : List (Location × Entry)}
    (keys : entries.map Prod.fst <+: others.map Prod.fst) (nodup : (others.map Prod.fst).Nodup)
    (h : ∀ loc, others.lookup loc = entries.lookup loc) : others = entries := by
  induction entries generalizing others with
  | nil =>
      cases others with
      | nil => rfl
      | cons pair rest =>
          have hfirst := h pair.1
          rw [List.lookup_cons] at hfirst
          simp at hfirst
  | cons pair rest ih =>
      cases others with
      | nil => simp at keys
      | cons other others =>
          obtain ⟨k, e⟩ := pair
          obtain ⟨l, d⟩ := other
          rw [List.map_cons, List.map_cons, List.cons_prefix_cons] at keys
          obtain ⟨hk, hkeys⟩ := keys
          have hk : k = l := hk
          subst hk
          obtain ⟨hnot, hnodup⟩ := List.nodup_cons.mp nodup
          have hfirst := h k
          rw [List.lookup_cons, List.lookup_cons] at hfirst
          simp only [beq_self_eq_true] at hfirst
          have hrest : ∀ loc, others.lookup loc = rest.lookup loc := by
            intro loc
            by_cases hloc : loc = k
            · subst hloc
              have hno : loc ∉ rest.map Prod.fst := fun hmem => hnot (hkeys.subset hmem)
              rw [lookup_of_not_mem hnot, lookup_of_not_mem hno]
            · have hl := h loc
              rw [List.lookup_cons, List.lookup_cons] at hl
              simpa only [beq_eq_false_iff_ne.mpr hloc] using hl
          rw [Option.some.inj hfirst, ih hkeys hnodup hrest]

/-- A file system that agrees with what it came of is what it came of. -/
theorem Extends.eq_of_agrees (h : fs.Extends gs) (agrees : fs.Agrees gs) : gs = fs := by
  have hlookup : ∀ loc, gs.entries.lookup loc = fs.entries.lookup loc := by
    intro loc
    by_cases hloc : loc = []
    · rw [hloc, h.root_eq]
    · rw [← entry?_of_ne gs hloc, ← entry?_of_ne fs hloc, agrees.entry?_eq]
  have hentries := eq_of_lookup_eq h.keys gs.distinct hlookup
  obtain ⟨entries, here, distinct⟩ := fs
  obtain ⟨others, there, distinct'⟩ := gs
  obtain rfl : others = entries := hentries
  obtain rfl : there = here := h.here_eq
  rfl

end Order

end FileSystem

/-! ## What a case does keeps the order -/

/-- The terms of a task that keeps the order of the entries. -/
def extending : Terms where
  rely _ _ := True
  guarantee := Extends
  refl _ := trivial
  trans _ _ := trivial

section Tasks

variable {fs : FileSystem}

theorem extending_done {α : Type} (result : α) : (done result).Safe extending (fun _ _ => True) fs :=
  safe_done fun _ _ => trivial

theorem extending_once {α : Type} {f : FileSystem → α × FileSystem}
    (h : ∀ gs : FileSystem, gs.Extends (f gs).2) : (once f).Safe extending (fun _ _ => True) fs :=
  safe_once fun gs _ => ⟨h gs, fun _ _ => trivial⟩

theorem extending_look {α : Type} (f : FileSystem → α) :
    (look f).Safe extending (fun _ _ => True) fs := extending_once Extends.refl

theorem extending_attempt {f : FileSystem → Except IoError FileSystem}
    (h : ∀ gs hs, f gs = .ok hs → gs.Extends hs) :
    (attempt f).Safe extending (fun _ _ => True) fs := by
  refine extending_once fun gs => ?_
  cases hf : f gs with
  | ok hs => exact h gs hs hf
  | error e => exact .refl gs

theorem extending_unlessDirectory (dir : Path) (e : IoError) :
    (unlessDirectory dir e).Safe extending (fun _ _ => True) fs :=
  (extending_look _).bind fun _ _ _ => extending_done _

theorem extending_makeNested (dirs : List Path) :
    (Task.makeNested dirs).Safe extending (fun _ _ => True) fs := by
  induction dirs generalizing fs with
  | nil => exact extending_done _
  | cons dir above ih =>
      have hfirst (gs hs : FileSystem) (h : dir.access (gs.makeDirectory dir) = .ok hs) :
          gs.Extends hs := extends_makeDirectory ((Path.access_eq_ok_iff ..).mp h).2
      have hsecond (gs hs : FileSystem) (h : (gs.makeDirectory dir).mapError IoError.os = .ok hs) :
          gs.Extends hs := by
        cases hmake : gs.makeDirectory dir with
        | error e => rw [hmake] at h; cases h
        | ok made =>
            rw [hmake] at h
            rw [← Except.ok.inj h]
            exact extends_makeDirectory hmake
      rw [Task.makeNested]
      split
      · exact extending_done _
      · refine (extending_attempt hfirst).bind fun result gs _ => ?_
        split
        · exact extending_done _
        · refine ih.bind fun result hs _ => ?_
          cases result with
          | error e => exact extending_done _
          | ok made =>
              refine (extending_attempt hsecond).bind fun result ks _ => ?_
              cases result with
              | ok made => exact extending_done _
              | error e => exact extending_unlessDirectory dir _
        · exact extending_unlessDirectory dir _

theorem extending_openOutput (actual : Path) :
    (Task.openOutput actual).Safe extending (fun _ _ => True) fs := by
  have hparent : (Task.makeParent actual).Safe extending (fun _ _ => True) fs := by
    unfold Task.makeParent
    split
    · exact extending_done _
    · split
      · exact extending_done _
      · refine (extending_makeNested _).bind fun result gs _ => ?_
        cases result <;> exact extending_done _
  refine hparent.bind fun result gs _ => ?_
  cases result with
  | error e => exact extending_done _
  | ok made =>
      refine extending_once fun hs => ?_
      cases hc : actual.access (hs.create actual) with
      | error e => exact .refl hs
      | ok opened => exact extends_create ((Path.access_eq_ok_iff ..).mp hc).2

theorem extending_comparing (c : TestCase) :
    c.comparing.Safe extending (fun _ _ => True) fs := by
  refine (extending_look _).bind fun expected gs _ => ?_
  cases expected with
  | error e => exact extending_done _
  | ok expected =>
      refine (extending_look _).bind fun actual hs _ => ?_
      cases actual <;> exact extending_done _

theorem extending_task (script : Script) (c : TestCase) :
    (c.task script).Safe extending (fun _ _ => True) fs := by
  unfold TestCase.task
  split
  · exact extending_done _
  · split
    · exact extending_done _
    · next output code _ =>
        refine (extending_openOutput _).bind fun result gs _ => ?_
        cases result with
        | error e => exact extending_done _
        | ok loc =>
            refine (extending_once fun hs => extends_fill hs loc output).bind fun _ hs _ => ?_
            exact (extending_comparing c).bind fun _ _ _ => extending_done _

end Tasks

/-- However the calls of some cases come to be ordered, the entries keep their places. -/
theorem extends_of_steps (script : Script) {cases : List TestCase} {fs : FileSystem} {pool : Pool}
    (steps : Relation.ReflTransGen Pool.Step ⟨cases.map (TestCase.task script), fs⟩ pool) :
    fs.Extends pool.files := by
  have compatible : Pool.Compatible (fun _ => extending) cases :=
    List.pairwise_of_forall fun _ _ => ⟨fun _ _ _ => trivial, fun _ _ _ => trivial⟩
  have hsafe : Pool.Safe (fun _ => extending) (fun _ _ _ => True) cases
      ⟨cases.map (TestCase.task script), fs⟩ := by
    refine List.forall₂_map_right_iff.mpr (List.forall₂_same.mpr fun c _ => ?_)
    exact extending_task script c
  exact Pool.invariant_of_steps compatible hsafe (fun _ _ gs hs hg hfs => hfs.trans hg) (.refl fs)
    steps

end GoldenFiles
