import GoldenFiles.Proofs.FileSystem.Reaching
import Mathlib.Logic.Relation

/-!
# One missing directory after the other

Of the directories above an output at most one can be made at a time: the one that is
missing first. Those before it are there, and nothing behind it can be reached. So the
file systems that come of making them one by one stand in a row (`Adds.unique`), whoever
makes them, and `makeNested` goes to the end of this row (`makeNested_exhausts`).

That is why opening an output in the end opens what could be opened at once. Where a
path can be opened, all directories above it are there, so this is the end of the row,
and it is the same file system (`openOutput_of_adds`). There is no need to know what
links the path goes through.
-/

namespace GoldenFiles.FileSystem

section

variable {fs gs hs : FileSystem} {origin dir place loc : Location} {above names rest : List Name}
  {name last : Name} {p q parent : Path} {links : Nat} {follow : Bool}

/-! ## The first that is missing -/

/-- Some names lead to a directory, and the next one is missing there. -/
structure Lacks (fs : FileSystem) (origin : Location) (above : List Name) (last : Name)
    (dir : Location) : Prop where
  leads : fs.Leads origin above dir
  no_dot : last ≠ Path.dot
  no_up : last ≠ Path.dotDot
  short : last.length ≤ maxNameLength
  absent : fs.entry? (last :: dir) = none

/-- A directory is made that is missing on the way along some names. -/
def Adds (origin : Location) (names : List Name) (fs gs : FileSystem) : Prop :=
  ∃ above last dir, above ++ [last] <+: names ∧ fs.Lacks origin above last dir ∧
    gs = fs.put (last :: dir) .directory

/-- A walk finds its last name missing just if that is missing where the others lead. -/
theorem walk_concat_eq_absent_iff (hdot : last ≠ Path.dot) :
    fs.walk false maxLinks origin (above ++ [last]) = .ok (.absent dir name) ↔
      fs.Lacks origin above last dir ∧ name = last := by
  constructor
  · intro h
    obtain ⟨d, left, -, first, h⟩ := exists_through (List.cons_ne_nil _ _) h
    by_cases hup : last = Path.dotDot
    · rw [hup, walk_up, walk_nil] at h
      cases h
    · rw [walk_last hdot hup] at h
      split at h
      · cases h
      · next hlong =>
          split at h
          · next he =>
              obtain ⟨rfl, rfl⟩ := Found.absent.inj (Except.ok.inj h)
              exact ⟨⟨first, hdot, hup, Nat.not_lt.mp hlong, he⟩, rfl⟩
          · rw [if_pos rfl] at h
            cases h
          · cases h
  · rintro ⟨lacks, rfl⟩
    obtain ⟨left, -, hlast⟩ := walk_through lacks.leads false (List.cons_ne_nil name [])
    rw [hlast, walk_last lacks.no_dot lacks.no_up, if_neg (Nat.not_lt.mpr lacks.short), lacks.absent]

theorem Lacks.walk_eq (h : fs.Lacks origin above last dir) (follow : Bool) :
    fs.walk follow maxLinks origin (above ++ [last]) = .ok (.absent dir last) := by
  have hfalse := (walk_concat_eq_absent_iff h.no_dot).mpr ⟨h, rfl⟩
  cases follow with
  | false => exact hfalse
  | true =>
      rcases walk_false fs maxLinks origin (above ++ [last]) with heq | ⟨l, target, hlink⟩
      · exact heq.symm.trans hfalse
      · rw [hfalse] at hlink; cases hlink

/-- Nothing behind a missing directory can be reached. -/
theorem Lacks.walk_append (h : fs.Lacks origin above last dir) (follow : Bool) (hrest : rest ≠ []) :
    fs.walk follow maxLinks origin (above ++ [last] ++ rest) = .error .noEntry := by
  cases onward fs follow maxLinks origin (above ++ [last]) hrest with
  | through d left le first onward => rw [h.walk_eq] at first; cases first
  | blocked d content executable first onward => rw [h.walk_eq] at first; cases first
  | failed e first onward => rw [h.walk_eq] at first; cases first
  | missing d name first onward => exact onward

theorem Lacks.not_leads (h : fs.Lacks origin above last dir) (hp : above ++ [last] <+: names) :
    ¬fs.Leads origin names place := by
  obtain ⟨rest, rfl⟩ := hp
  intro hw
  rw [Leads] at hw
  by_cases hrest : rest = []
  · rw [hrest, List.append_nil, h.walk_eq] at hw; cases hw
  · rw [h.walk_append true hrest] at hw; cases hw

/-- At most one directory can be made at a time. -/
theorem Adds.unique (h : Adds origin names fs gs) (h' : Adds origin names fs hs) : gs = hs := by
  obtain ⟨above, last, dir, hp, lacks, rfl⟩ := h
  obtain ⟨above', last', dir', hp', lacks', rfl⟩ := h'
  rcases lt_trichotomy above.length above'.length with hlt | heq | hlt
  · have hpre : above ++ [last] <+: above' := List.prefix_of_prefix_length_le hp
      ((List.prefix_append above' [last']).trans hp') (by simp; omega)
    exact absurd lacks'.leads (lacks.not_leads hpre)
  · have hpre := List.prefix_of_prefix_length_le hp hp' (by simp [heq])
    obtain ⟨rfl, hlast⟩ := List.append_inj (hpre.eq_of_length (by simp [heq])) heq
    obtain rfl := (List.cons.inj hlast).1
    have hdir := lacks.leads.symm.trans lacks'.leads
    rw [(Found.entry.inj (Except.ok.inj hdir)).1]
  · have hpre : above' ++ [last'] <+: above := List.prefix_of_prefix_length_le hp'
      ((List.prefix_append above [last]).trans hp) (by simp; omega)
    exact absurd lacks.leads (lacks'.not_leads hpre)

theorem Adds.keeps (h : Adds origin names fs gs) : fs.Keeps gs := by
  obtain ⟨above, last, dir, hp, lacks, rfl⟩ := h
  exact keeps_put (List.cons_ne_nil _ _) fun old hold => by rw [lacks.absent] at hold; cases hold

theorem adds_concat_iff : Adds origin (above ++ [last]) fs gs ↔ Adds origin above fs gs ∨
    ∃ dir, fs.Lacks origin above last dir ∧ gs = fs.put (last :: dir) .directory := by
  constructor
  · rintro ⟨above', last', dir, hp, lacks, rfl⟩
    rcases List.prefix_concat_iff.mp hp with heq | hp
    · obtain ⟨rfl, hlast⟩ := List.append_inj' heq rfl
      obtain rfl := (List.cons.inj hlast).1
      exact .inr ⟨dir, lacks, rfl⟩
    · exact .inl ⟨above', last', dir, hp, lacks, rfl⟩
  · rintro (⟨above', last', dir, hp, lacks, rfl⟩ | ⟨dir, lacks, rfl⟩)
    · exact ⟨above', last', dir, hp.trans (List.prefix_append _ _), lacks, rfl⟩
    · exact ⟨above, last, dir, List.prefix_rfl, lacks, rfl⟩

theorem not_adds_of_leads (h : fs.Leads origin names place) :
    ¬Adds origin names fs gs := by
  rintro ⟨above, last, dir, hp, lacks, -⟩
  exact lacks.not_leads hp h

/-! ## Making what is missing -/

theorem find_cut_links (follow : Bool) (cut : Path.Cut p parent above last)
    (short : p.bytes.length < maxPathLength) :
    fs.find follow p = fs.walk follow maxLinks (start fs.here p) (above ++ [last]) := by
  obtain ⟨init, hp⟩ := cut.last_piece
  have hsteps : steps p = init.filter (· ≠ []) ++ [last] := by
    rw [steps, endsInSlash_of_last hp cut.last_ne.1, hp, List.filter_append]
    simp [cut.last_ne.1]
  have hnames := steps_filter p
  rw [hsteps, List.filter_append, cut.names_eq,
    show [last].filter isStep = [last] by simp [isStep, cut.last_ne.2]] at hnames
  have habove : above.filter isStep = above := by
    rw [← List.append_cancel_right hnames, List.filter_filter]
    simp
  rw [find, if_neg (bytes_ne_nil_of_last hp cut.last_ne.1), if_neg (Nat.not_le.mpr short), hsteps]
  refine walk_concat_of_filter_eq last ?_
  rw [List.append_cancel_right hnames, habove]

/-- A directory is made just if it is what is missing on its own path. -/
theorem makeDirectory_eq_ok_iff (cut : Path.Cut p parent above last)
    (short : p.bytes.length < maxPathLength) : fs.makeDirectory p = .ok gs ↔
      ∃ dir, fs.Lacks (start fs.here p) above last dir ∧ gs = fs.put (last :: dir) .directory := by
  obtain ⟨init, hp⟩ := cut.last_piece
  rw [makeDirectory, withoutFinalSlashes_of_last hp cut.last_ne.1, find_cut_links false cut short]
  constructor
  · intro h
    split at h
    · next habsent =>
        obtain ⟨lacks, rfl⟩ := (walk_concat_eq_absent_iff cut.last_ne.2).mp habsent
        exact ⟨_, lacks, (Except.ok.inj h).symm⟩
    · cases h
    · cases h
  · rintro ⟨dir, lacks, rfl⟩
    rw [lacks.walk_eq]

theorem makeDirectory_of_empty (fs : FileSystem) (hb : p.bytes = []) :
    fs.makeDirectory p = .error .noEntry := by
  obtain ⟨bytes⟩ := p
  subst hb
  rfl

theorem mem_upTo_nameless (trim : p.Trim) (hn : p.names = []) {n : Nat}
    (h : q ∈ Path.ancestors.upTo n p) : q = p ∨ q.bytes = [] := by
  have hempty (n : Nat) : Path.ancestors.upTo n ⟨[]⟩ = [⟨[]⟩] := by cases n <;> rfl
  cases n with
  | zero => exact .inl (List.mem_singleton.mp h)
  | succ n =>
      obtain ⟨bytes⟩ := p
      rcases trim.nameless hn with hb | hb | hb <;> simp only [] at hb <;> subst hb
      · exact .inl (List.mem_singleton.mp h)
      · exact .inl (List.mem_singleton.mp h)
      · have hdot : Path.ancestors.upTo (n + 1) ⟨Path.dot⟩ = [⟨Path.dot⟩, ⟨[]⟩] := by
          rw [← hempty n]
          rfl
        rw [hdot] at h
        rcases List.mem_pair.mp h with h | h
        · exact .inl h
        · exact .inr (by rw [h])

/-- Whichever directory above a path is made, it is the one that is missing first. -/
theorem adds_of_makeDirectory (names : List Name) : ∀ {p : Path} {n : Nat}, p.Trim →
    p.names = names → p.bytes.length ≤ n → p.bytes.length < maxPathLength →
    q ∈ Path.ancestors.upTo n p → fs.makeDirectory q = .ok gs →
    Adds (start fs.here p) names fs gs := by
  induction names using List.reverseRecOn with
  | nil =>
      intro p n trim hn hlen short hq hmake
      rcases mem_upTo_nameless trim hn hq with rfl | hb
      · by_cases hb : q.bytes = []
        · rw [makeDirectory_of_empty fs hb] at hmake; cases hmake
        · rw [(making_nameless fs trim hn hb).2.1] at hmake; cases hmake
      · rw [makeDirectory_of_empty fs hb] at hmake; cases hmake
  | append_singleton above last ih =>
      intro p n trim hn hlen short hq hmake
      obtain ⟨parent, cut⟩ := trim.cut hn
      obtain ⟨m, hm, hup⟩ := cut.upTo_eq hlen
      rw [adds_concat_iff]
      rw [hup] at hq
      rcases List.mem_cons.mp hq with rfl | hq
      · exact .inr ((makeDirectory_eq_ok_iff cut short).mp hmake)
      · have hstart : start fs.here parent = start fs.here p := by
          rw [start, start, cut.isAbsolute_eq]
        exact .inl (hstart ▸ ih cut.trim cut.parent_names hm (Nat.lt_trans cut.shorter short) hq hmake)

/-- What is left when all that can be made has been made. -/
structure Exhausts (origin : Location) (names : List Name) (fs : FileSystem)
    (result : Except IoError Unit) (gs : FileSystem) : Prop where
  adds : Relation.ReflTransGen (Adds origin names) fs gs
  done : ∀ hs, ¬Adds origin names gs hs
  ok_iff : result = .ok () ↔ ∃ place, gs.Leads origin names place

theorem keeps_of_adds (h : Relation.ReflTransGen (Adds origin names) fs gs) : fs.Keeps gs := by
  induction h with
  | refl => exact .refl fs
  | tail _ step ih => exact ih.trans step.keeps

theorem walk_concat_ne_noEntry
    (leads : fs.Leads origin above dir) :
    fs.walk false maxLinks origin (above ++ [last]) ≠ .error .noEntry := by
  obtain ⟨left, -, hlast⟩ := walk_through leads false (List.cons_ne_nil last [])
  rw [hlast]
  by_cases hdot : last = Path.dot
  · rw [hdot, walk_dot, walk_nil]; simp
  by_cases hup : last = Path.dotDot
  · rw [hup, walk_up, walk_nil]; simp
  rw [walk_last hdot hup]
  split
  · simp
  · split <;> simp

theorem leads_of_made (lacks : fs.Lacks origin above last dir) :
    Leads (fs.put (last :: dir) .directory) origin (above ++ [last]) (last :: dir) := by
  have hkeeps : fs.Keeps (fs.put (last :: dir) .directory) :=
    Adds.keeps ⟨above, last, dir, List.prefix_rfl, lacks, rfl⟩
  have leads := hkeeps.leads lacks.leads
  obtain ⟨left, -, hlast⟩ := walk_through leads true (List.cons_ne_nil last [])
  rw [Leads, hlast, walk_last lacks.no_dot lacks.no_up, if_neg (Nat.not_lt.mpr lacks.short),
    entry?_put fs (List.cons_ne_nil _ _), if_pos rfl]

/-- Once the directories above it are there, the last one is made, or nothing can be. -/
theorem exhausts_of_leads (cut : Path.Cut p parent above last)
    (short : p.bytes.length < maxPathLength)
    (leads : fs.Leads (start fs.here p) above dir) :
    (∃ gs, fs.makeDirectory p = .ok gs ∧
        Exhausts (start fs.here p) (above ++ [last]) fs (.ok ()) gs) ∨
      ∃ e, e ≠ .noEntry ∧ fs.makeDirectory p = .error e ∧ ∀ why,
        Exhausts (start fs.here p) (above ++ [last]) fs
          (if fs.isDirectory p then .ok () else .error why) fs := by
  cases hmake : fs.makeDirectory p with
  | ok gs =>
      obtain ⟨d, lacks, rfl⟩ := (makeDirectory_eq_ok_iff cut short).mp hmake
      have hmade := leads_of_made lacks
      refine .inl ⟨_, rfl, .single (adds_concat_iff.mpr (.inr ⟨d, lacks, rfl⟩)),
        fun hs => not_adds_of_leads hmade, iff_of_true rfl ⟨_, hmade⟩⟩
  | error e =>
      obtain ⟨init, hp⟩ := cut.last_piece
      refine .inr ⟨e, ?_, rfl, fun why => ⟨.refl, fun hs hadds => ?_, ?_⟩⟩
      · rintro rfl
        rw [makeDirectory, withoutFinalSlashes_of_last hp cut.last_ne.1,
          find_cut_links false cut short] at hmake
        split at hmake
        · cases hmake
        · cases hmake
        · next herror =>
            obtain rfl := Except.error.inj hmake
            exact walk_concat_ne_noEntry leads herror
      · rcases adds_concat_iff.mp hadds with hadds | hlacks
        · exact not_adds_of_leads leads hadds
        · rw [(makeDirectory_eq_ok_iff cut short).mpr hlacks] at hmake
          cases hmake
      · have hb : p.bytes ≠ [] := bytes_ne_nil_of_last hp cut.last_ne.1
        have his := isDirectory_iff_leads fs p
        simp only [hb, short, cut.names_eq, ne_eq, not_false_eq_true, true_and] at his
        rw [← his]
        cases fs.isDirectory p <;> simp

theorem leads_of_concat
    (h : fs.Leads origin (above ++ [last]) place) :
    ∃ dir, fs.Leads origin above dir := by
  obtain ⟨dir, -, -, leads, -⟩ := exists_through (List.cons_ne_nil _ _) h
  exact ⟨dir, leads⟩

/-- Where the way to the last directory is not free, it is not made, and if the reason is
not that something is missing then nothing can be. -/
theorem exhausts_of_stuck (cut : Path.Cut p parent above last)
    (short : p.bytes.length < maxPathLength)
    (stuck : ¬∃ dir, fs.Leads (start fs.here p) above dir) :
    ∃ e, fs.makeDirectory p = .error e ∧ fs.isDirectory p = false ∧
      (e ≠ .noEntry → ∀ why, Exhausts (start fs.here p) (above ++ [last]) fs (.error why) fs) := by
  obtain ⟨init, hp⟩ := cut.last_piece
  have hno : ¬∃ place, fs.Leads (start fs.here p) (above ++ [last]) place := fun ⟨place, h⟩ => stuck (leads_of_concat h)
  cases hmake : fs.makeDirectory p with
  | ok gs =>
      obtain ⟨dir, lacks, -⟩ := (makeDirectory_eq_ok_iff cut short).mp hmake
      exact absurd ⟨dir, lacks.leads⟩ stuck
  | error e =>
      refine ⟨e, rfl, ?_, fun hne why => ⟨.refl, fun hs hadds => ?_, iff_of_false (by simp) hno⟩⟩
      · rw [← Bool.not_eq_true, isDirectory_iff_leads]
        simp only [cut.names_eq]
        exact fun h => hno h.2.2
      · rcases adds_concat_iff.mp hadds with ⟨above', last', dir, ⟨rest, rfl⟩, lacks, -⟩ |
          ⟨dir, lacks, -⟩
        · -- something is missing further up, and this would have been the answer
          rw [makeDirectory, withoutFinalSlashes_of_last hp cut.last_ne.1,
            find_cut_links false cut short, List.append_assoc,
            lacks.walk_append false (by simp)] at hmake
          exact hne (Except.error.inj hmake).symm
        · exact stuck ⟨dir, lacks.leads⟩

theorem Exhausts.of_above {why other : IoError} (h : Exhausts origin above fs (.error why) gs) :
    Exhausts origin (above ++ [last]) fs (.error other) gs := by
  have stuck : ¬∃ dir, gs.Leads origin above dir :=
    fun hleads => by cases h.ok_iff.mpr hleads
  refine ⟨.mono (fun _ _ hadds => adds_concat_iff.mpr (.inl hadds)) _ _ h.adds, fun hs hadds => ?_,
    iff_of_false (by simp) fun ⟨place, hw⟩ => stuck (leads_of_concat hw)⟩
  rcases adds_concat_iff.mp hadds with hadds | ⟨dir, lacks, -⟩
  · exact h.done hs hadds
  · exact stuck ⟨dir, lacks.leads⟩

theorem Exhausts.trans {first second : Except IoError Unit} (h : Exhausts origin above fs first gs)
    (h' : Exhausts origin (above ++ [last]) gs second hs) :
    Exhausts origin (above ++ [last]) fs second hs where
  adds := (Relation.ReflTransGen.mono (fun _ _ hadds => adds_concat_iff.mpr (.inl hadds)) _ _
    h.adds).trans h'.adds
  done := h'.done
  ok_iff := h'.ok_iff

/-- Making all directories of a path goes on as long as one can be made, and it succeeds
just if the path leads to a directory in the end. -/
theorem makeNested_exhausts (fs : FileSystem) (names : List Name) : ∀ {p : Path} {n : Nat}, p.Trim →
    p.names = names → p.bytes.length ≤ n → p.bytes.length < maxPathLength →
    holdsNul p.bytes = false → ∃ result gs,
      fs.makeNested (Path.ancestors.upTo n p) = (result, gs) ∧
        Exhausts (start fs.here p) names fs result gs := by
  induction names using List.reverseRecOn with
  | nil =>
      intro p n trim hn hlen short nul
      have hdone : Exhausts (start fs.here p) [] fs (.ok ()) fs :=
        ⟨.refl, fun hs => not_adds_of_leads (walk_nil ..), iff_of_true rfl ⟨_, walk_nil ..⟩⟩
      obtain ⟨rest, hrest⟩ := Path.exists_upTo_eq_cons n p
      rw [hrest, makeNested]
      split
      · exact ⟨_, _, rfl, hdone⟩
      · next hb =>
          obtain ⟨-, hmake, his⟩ := making_nameless fs trim hn hb
          refine ⟨_, _, ?_, hdone⟩
          rw [Path.access_of_not_holdsNul nul, hmake]
          simp only [Except.mapError, his, if_true]
  | append_singleton above last ih =>
      intro p n trim hn hlen short nul
      obtain ⟨parent, cut⟩ := trim.cut hn
      obtain ⟨m, hm, hup⟩ := cut.upTo_eq hlen
      have hb : p.bytes ≠ [] := List.length_pos_iff.mp (by have := cut.shorter; omega)
      have hstart : start fs.here parent = start fs.here p := by
        rw [start, start, cut.isAbsolute_eq]
      rw [hup, makeNested, if_neg hb, Path.access_of_not_holdsNul nul]
      by_cases hleads : ∃ dir, fs.Leads (start fs.here p) above dir
      · obtain ⟨dir, leads⟩ := hleads
        rcases exhausts_of_leads cut short leads with ⟨gs, hmake, hdone⟩ | ⟨e, hne, hmake, hdone⟩
        · rw [hmake]
          exact ⟨_, _, rfl, hdone⟩
        · rw [hmake]
          cases e <;> first | exact absurd rfl hne | exact ⟨_, _, rfl, hdone _⟩
      · obtain ⟨e, hmake, his, hdone⟩ := exhausts_of_stuck cut short hleads
        rw [hmake]
        by_cases hmissing : e = .noEntry
        · subst hmissing
          obtain ⟨result, gs, hgs, habove⟩ := ih cut.trim cut.parent_names hm
            (Nat.lt_trans cut.shorter short) (cut.holdsNul_parent nul)
          rw [hstart] at habove
          have hhere : start gs.here p = start fs.here p := by rw [(keeps_of_adds habove.adds).here_eq]
          simp only [Except.mapError, hgs]
          rcases result with why | ⟨⟩
          · exact ⟨_, _, rfl, habove.of_above⟩
          · obtain ⟨dir, leads⟩ := habove.ok_iff.mp rfl
            rw [← hhere] at leads habove
            rw [← hhere]
            rcases exhausts_of_leads cut short leads with ⟨hs, hmake, hlast⟩ | ⟨e, -, hmake, hlast⟩
            · simp only [hmake]
              exact ⟨_, _, rfl, habove.trans hlast⟩
            · simp only [hmake]
              exact ⟨_, _, rfl, habove.trans (hlast _)⟩
        · have hfailed := hdone hmissing
          simp only [Except.mapError, his, Bool.false_eq_true, if_false]
          cases e <;> first | exact absurd rfl hmissing | exact ⟨_, _, rfl, hfailed _⟩

/-! ## Opening is the same in the end -/

theorem eq_of_done (h : Relation.ReflTransGen (Adds origin names) fs gs)
    (done : ∀ hs, ¬Adds origin names fs hs) : gs = fs := by
  rcases h.cases_head with heq | ⟨hs, hadds, -⟩
  · exact heq.symm
  · exact absurd hadds (done hs)

/-- There is one file system only in which all has been made. -/
theorem Exhausts.eq_of_adds {result : Except IoError Unit}
    (h : Exhausts origin names fs result gs)
    (hadds : Relation.ReflTransGen (Adds origin names) fs hs) (done : ∀ x, ¬Adds origin names hs x) :
    hs = gs := by
  have unique : Relator.RightUnique (Adds origin names) := fun _ _ _ => Adds.unique
  rcases h.adds.total_of_right_unique unique hadds with hmore | hmore
  · exact eq_of_done hmore h.done
  · exact (eq_of_done hmore done).symm

theorem makeParent_join (hname : Path.NormalName name) (fs : FileSystem) :
    fs.makeParent (q.join ⟨name⟩) = match fs.makeNested q.trimmed.ancestors with
      | (.ok (), gs) => (.ok (), gs)
      | (.error e, gs) => (.error (.io q.trimmed e), gs) := by
  rw [makeParent, Path.parent?_join hname]
  simp only []
  split
  · next hb =>
      obtain ⟨rest, hrest⟩ := Path.exists_upTo_eq_cons q.trimmed.bytes.length q.trimmed
      rw [Path.ancestors, hrest, makeNested, if_pos hb]
  · rfl

/-- What can be opened after some directories have been made is what opening the output
opens. -/
theorem openOutput_of_adds (hname : Path.NormalName name)
    (hadds : Relation.ReflTransGen (Adds (start fs.here q) q.names) fs gs)
    (hopen : (q.join ⟨name⟩).access (gs.create (q.join ⟨name⟩)) = .ok (loc, hs)) :
    fs.openOutput (q.join ⟨name⟩) = (.ok loc, hs) := by
  obtain ⟨nul, hcreate⟩ := (Path.access_eq_ok_iff ..).mp hopen
  obtain ⟨-, hlen, hvia⟩ := (create_eq_ok_iff ..).mp hcreate
  rw [createVia_eq, createWith_join _ hname, (keeps_of_adds hadds).here_eq] at hvia
  obtain ⟨dir, leads, -, -⟩ := hvia
  have hbytes := q.trimmed_prefix.trans (Path.prefix_join hname)
  have hnul : holdsNul q.trimmed.bytes = false := (holdsNul_eq_false_iff _).mpr fun hz =>
    (holdsNul_eq_false_iff _).mp nul (hbytes.subset hz)
  obtain ⟨result, made, hmade, hexhausts⟩ := makeNested_exhausts fs q.names q.trimmed_trim
    q.names_trimmed (Nat.le_refl _) (Nat.lt_of_le_of_lt hbytes.length_le hlen) hnul
  have hstart : start fs.here q.trimmed = start fs.here q := by
    rw [start, start, Path.isAbsolute_trimmed]
  rw [hstart] at hexhausts
  obtain rfl := hexhausts.eq_of_adds hadds fun x => not_adds_of_leads leads
  obtain rfl := hexhausts.ok_iff.mpr ⟨dir, leads⟩
  rw [openOutput, makeParent_join hname, Path.ancestors, hmade]
  simp only [hopen]

/-- An output that is there is opened where it is. No directory is made for it, and all
that changes is that it is empty. -/
theorem openOutput_of_stat {old : Bytes} {executable : Bool} (nul : holdsNul p.bytes = false)
    (h : fs.stat p = .ok (loc, .file old executable)) :
    fs.openOutput p = (.ok loc, fs.put loc (.file [] executable)) := by
  have hcreate := create_of_stat h
  obtain ⟨q, name, hname, rfl, -, -⟩ := exists_leads_of_create hcreate
  exact openOutput_of_adds hname .refl ((Path.access_eq_ok_iff ..).mpr ⟨nul, hcreate⟩)

end

end GoldenFiles.FileSystem
