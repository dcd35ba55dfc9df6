import GoldenFiles.FileSystem.Directory
import GoldenFiles.Proofs.FileSystem.Walk
import Mathlib.Data.List.Forall2
import Mathlib.Data.List.Perm.Basic

/-!
# What a listing holds

A listing is the directory's entries, one for one: `Lists` says which entry
each line of it comes from. No name stands in it twice, and how the directory is
stored decides about the order of the lines and nothing else. It fails only
where a link cannot be followed, so a directory all of whose links resolve has
a listing.
-/

namespace GoldenFiles

theorem mapM_eq_ok_iff {α β ε : Type _} (f : α → Except ε β) (items : List α) (results : List β) :
    items.mapM f = .ok results ↔ List.Forall₂ (fun a b => f a = .ok b) items results := by
  induction items generalizing results with
  | nil => simp [pure, Except.pure, eq_comm]
  | cons item items ih =>
      rw [List.mapM_cons]
      cases hf : f item with
      | error e =>
          refine iff_of_false (by simp [bind, Except.bind]) fun h => ?_
          cases h with
          | cons hitem _ => rw [hf] at hitem; cases hitem
      | ok result =>
          cases hm : items.mapM f with
          | error e =>
              refine iff_of_false (by simp [bind, Except.bind]) fun h => ?_
              cases h with
              | cons _ hitems => rw [(ih _).mpr hitems] at hm; cases hm
          | ok rest =>
              have hrest := (ih rest).mp hm
              simp only [bind, Except.bind, pure, Except.pure, Except.ok.injEq]
              constructor
              · rintro rfl
                exact .cons hf hrest
              · intro h
                cases h with
                | cons hitem hitems =>
                    rw [hf] at hitem
                    rw [(ih _).mpr hitems] at hm
                    rw [Except.ok.inj hitem, Except.ok.inj hm]

theorem exists_right_of_forall₂ {α β : Type _} {r : α → β → Prop} {as : List α} {bs : List β}
    (h : List.Forall₂ r as bs) {a : α} (ha : a ∈ as) : ∃ b ∈ bs, r a b := by
  induction h with
  | nil => cases ha
  | cons hr _ ih =>
      rcases List.mem_cons.mp ha with rfl | ha
      · exact ⟨_, List.mem_cons_self, hr⟩
      · obtain ⟨b, hb, hr⟩ := ih ha
        exact ⟨b, List.mem_cons_of_mem _ hb, hr⟩

theorem Path.access_eq_ok_iff {α : Type} (p : Path) (answer : Except Errno α) (a : α) :
    p.access answer = .ok a ↔ holdsNul p.bytes = false ∧ answer = .ok a := by
  unfold access
  split
  · next h => simp [h]
  · next h => cases answer <;> simp_all [Except.mapError]

namespace FileSystem

/-- What following an entry gives: the entry itself, or what its link leads to. -/
theorem follow_eq_ok_iff (fs : FileSystem) (dir : Path) (loc : Location) (name : Name) (e : Entry)
    (listed : Listed) : fs.follow dir loc name e = .ok listed ↔
      (listed.name = name ∧ listed.path = dir.join ⟨name⟩) ∧
        match e with
        | .link _ => ∃ place, fs.stat (dir.join ⟨name⟩) = .ok (place, listed.entry) ∧ place ≠ loc
        | e => listed.entry = e := by
  obtain ⟨n, p, le⟩ := listed
  unfold follow
  simp only []
  cases e with
  | directory => simp [eq_comm, and_assoc]
  | file content executable => simp [eq_comm, and_assoc]
  | link target =>
      simp only []
      cases hs : fs.stat (dir.join ⟨name⟩) with
      | error reason => simp
      | ok found =>
          obtain ⟨place, e⟩ := found
          simp only []
          split
          · next h => simp [h]
          · next h =>
              simp only [Except.ok.injEq, Listed.mk.injEq, Prod.mk.injEq]
              constructor
              · rintro ⟨rfl, rfl, rfl⟩
                exact ⟨⟨rfl, rfl⟩, place, ⟨rfl, rfl⟩, h⟩
              · rintro ⟨⟨rfl, rfl⟩, _, ⟨-, rfl⟩, -⟩
                exact ⟨rfl, rfl, rfl⟩

/-- The lines of a listing and the entries they come from. -/
def Lists (fs : FileSystem) (dir : Path) (loc : Location) (listing : List Listed) : Prop :=
  List.Forall₂ (fun (entry : Name × Entry) listed => fs.follow dir loc entry.1 entry.2 = .ok listed)
    (fs.children loc) listing

theorem list_eq_ok_iff (fs : FileSystem) (dir : Path) (listing : List Listed) :
    fs.list dir = .ok listing ↔
      ∃ loc, dir.access (fs.stat dir) = .ok (loc, .directory) ∧ fs.Lists dir loc listing := by
  unfold list
  split
  · next h => simp [h]
  · next loc h => simp [h, mapM_eq_ok_iff, Lists]
  · next found hne h =>
      refine iff_of_false (by simp) ?_
      rintro ⟨loc, hdir, -⟩
      rw [hdir] at h
      exact hne loc (Except.ok.inj h).symm

variable {fs gs : FileSystem} {dir : Path} {loc : Location} {listing : List Listed}

theorem Lists.mem_iff (h : fs.Lists dir loc listing) (listed : Listed) : listed ∈ listing ↔
    ∃ e, fs.entry? (listed.name :: loc) = some e ∧ fs.follow dir loc listed.name e = .ok listed := by
  constructor
  · intro hmem
    obtain ⟨⟨name, e⟩, hentry, hf⟩ := exists_right_of_forall₂ h.flip hmem
    obtain ⟨rfl, -⟩ := ((follow_eq_ok_iff ..).mp hf).1
    exact ⟨e, (mem_children_iff ..).mp hentry, hf⟩
  · rintro ⟨e, he, hf⟩
    obtain ⟨other, hmem, hother⟩ := exists_right_of_forall₂ h ((mem_children_iff ..).mpr he)
    rw [hf] at hother
    exact Except.ok.inj hother ▸ hmem

/-- Without links the lines of a listing are the entries themselves. -/
theorem Lists.mem_iff_of_free (free : fs.LinkFree) (h : fs.Lists dir loc listing)
    (listed : Listed) : listed ∈ listing ↔
      fs.entry? (listed.name :: loc) = some listed.entry ∧ listed.path = dir.join ⟨listed.name⟩ := by
  rw [h.mem_iff listed]
  constructor
  · rintro ⟨e, he, hf⟩
    obtain ⟨⟨-, hpath⟩, hentry⟩ := (follow_eq_ok_iff ..).mp hf
    refine ⟨?_, hpath⟩
    cases e with
    | directory => rw [he, hentry]
    | file content executable => rw [he, hentry]
    | link target => exact absurd he (free _ target)
  · rintro ⟨he, hpath⟩
    refine ⟨listed.entry, he, (follow_eq_ok_iff ..).mpr ⟨⟨rfl, hpath⟩, ?_⟩⟩
    cases hentry : listed.entry with
    | directory => rfl
    | file content executable => rfl
    | link target => exact absurd (hentry ▸ he) (free _ target)

theorem Lists.names_eq (h : fs.Lists dir loc listing) :
    listing.map Listed.name = (fs.children loc).map Prod.fst := by
  rw [← List.forall₂_eq_eq_eq, List.forall₂_map_left_iff, List.forall₂_map_right_iff]
  exact h.flip.imp fun listed entry hf => ((follow_eq_ok_iff ..).mp hf).1.1

theorem Lists.nodup (h : fs.Lists dir loc listing) : (listing.map Listed.name).Nodup :=
  h.names_eq ▸ nodup_children fs loc

theorem Lists.path_eq (h : fs.Lists dir loc listing) {listed : Listed} (hmem : listed ∈ listing) :
    listed.path = dir.join ⟨listed.name⟩ := by
  obtain ⟨e, -, hf⟩ := (h.mem_iff listed).mp hmem
  exact ((follow_eq_ok_iff ..).mp hf).1.2

theorem Lists.entryName (h : fs.Lists dir loc listing) (wf : fs.WellFormed) {listed : Listed}
    (hmem : listed ∈ listing) : EntryName listed.name := by
  obtain ⟨e, he, -⟩ := (h.mem_iff listed).mp hmem
  exact wf.entryName he

/-- A directory all of whose links resolve has a listing. -/
theorem exists_lists (h : ∀ name target, fs.entry? (name :: loc) = some (.link target) →
    ∃ place e, fs.stat (dir.join ⟨name⟩) = .ok (place, e) ∧ place ≠ loc) :
    ∃ listing, fs.Lists dir loc listing := by
  have hline : ∀ entry ∈ fs.children loc,
      ∃ listed, fs.follow dir loc entry.1 entry.2 = .ok listed := by
    rintro ⟨name, e⟩ hmem
    cases e with
    | directory => exact ⟨_, rfl⟩
    | file content executable => exact ⟨_, rfl⟩
    | link target =>
        obtain ⟨place, e, hs, hne⟩ := h name target ((mem_children_iff ..).mp hmem)
        exact ⟨⟨name, dir.join ⟨name⟩, e⟩,
          (follow_eq_ok_iff ..).mpr ⟨⟨rfl, rfl⟩, place, hs, hne⟩⟩
  unfold Lists
  generalize fs.children loc = entries at hline ⊢
  induction entries with
  | nil => exact ⟨[], .nil⟩
  | cons entry entries ih =>
      obtain ⟨listed, hf⟩ := hline entry List.mem_cons_self
      obtain ⟨listing, hl⟩ := ih fun entry hmem => hline entry (List.mem_cons_of_mem _ hmem)
      exact ⟨listed :: listing, .cons hf hl⟩

/-- Storing a directory in another order only reorders its listing. -/
theorem Lists.of_perm (h : fs.Lists dir loc listing) (here : fs.here = gs.here)
    (hp : fs.entries.Perm gs.entries) : ∃ other, gs.Lists dir loc other ∧ other.Perm listing := by
  have hagrees := agrees_of_perm here hp
  have hfollow (name : Name) (e : Entry) : gs.follow dir loc name e = fs.follow dir loc name e := by
    cases e <;> simp only [follow, stat_congr hagrees]
  have hchildren : (gs.children loc).Perm (fs.children loc) := (hp.filterMap _).symm
  have hcomp := List.perm_comp_forall₂ hchildren h
  obtain ⟨other, hother, hperm⟩ := hcomp
  exact ⟨other, hother.imp fun entry listed hf => (hfollow ..).trans hf, hperm⟩

end FileSystem

end GoldenFiles
