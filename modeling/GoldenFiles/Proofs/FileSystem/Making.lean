import GoldenFiles.FileSystem.Update
import GoldenFiles.Proofs.FileSystem.Listing
import Mathlib.Data.List.Induction
import Mathlib.Logic.Relation

/-!
# Making directories and opening files

Without links, making a directory and opening a file are each a walk through
directories followed by one change, or none, at the last name. `Making` lists
once and for all what an attempt to make a directory can come to; `create_join`
and `read_join` are the equations for a file in a directory.

Making nested directories tries the whole path first and goes up only where
something is missing, so what it leaves behind is not obvious from its text.
`makeNested_made` says it for the case in which nothing but absence is in the
way, whatever dots the path goes through: then every place on the way is a
directory in the end and nothing else has changed.
-/

namespace GoldenFiles

theorem holdsNul_eq_false_iff (bytes : Bytes) : holdsNul bytes = false ↔ 0 ∉ bytes := by
  simp [holdsNul]

namespace Path

variable {p parent : Path} {above : List Name} {last : Name}

theorem Cut.last_mem_pieces (h : Cut p parent above last) : last ∈ p.pieces := by
  obtain ⟨init, hp⟩ := h.last_piece
  rw [hp]
  exact List.mem_append_right _ List.mem_cons_self

theorem Cut.last_ne (h : Cut p parent above last) : last ≠ [] ∧ last ≠ dot := by
  simpa [isIgnored] using h.last_counts

/-- The last name of a path without NUL is a name for an entry, unless it goes up
or is too long. -/
theorem Cut.entryName (h : Cut p parent above last) (nul : holdsNul p.bytes = false)
    (up : last ≠ dotDot) (short : last.length ≤ FileSystem.maxNameLength) : EntryName last := by
  refine ⟨⟨h.last_ne.1, h.last_ne.2, up, not_mem_of_mem_pieces h.last_mem_pieces⟩, ?_, short⟩
  exact fun hmem => (holdsNul_eq_false_iff _).mp nul
    (Separated.subset_of_mem_split h.last_mem_pieces hmem)

theorem Cut.holdsNul_parent (h : Cut p parent above last) (nul : holdsNul p.bytes = false) :
    holdsNul parent.bytes = false :=
  (holdsNul_eq_false_iff _).mpr fun hmem => (holdsNul_eq_false_iff _).mp nul (h.subset hmem)

/-- A trim path without names is empty, the root, or a dot. -/
theorem Trim.nameless (h : p.Trim) (hn : p.names = []) :
    p.bytes = [] ∨ p.bytes = [slash] ∨ p.bytes = dot := by
  cases h with
  | empty => exact .inl rfl
  | pieces first rest hs hl =>
      rw [names_eq_filter_body, body_ofPieces hs hl, List.filter_eq_nil_iff] at hn
      rcases List.eq_nil_or_concat rest with rfl | ⟨rest, last, rfl⟩
      · have hfirst : isIgnored first = true := by simpa using hn first List.mem_cons_self
        by_cases h : first = []
        · exact .inr (.inl (by rw [h]; rfl))
        · have hdot : first = dot := by simpa [isIgnored, h] using hfirst
          exact .inr (.inr (by rw [hdot]; rfl))
      · have hcounts := hl last (by simp)
        have := hn last (by simp)
        simp [hcounts] at this

end Path

namespace FileSystem

theorem withoutFinalSlashes_of_last {p : Path} {init : List Name} {last : Name}
    (hp : p.pieces = init ++ [last]) (hl : last ≠ []) : withoutFinalSlashes p = p := by
  have hslash := endsInSlash_of_last hp hl
  have hne := bytes_ne_nil_of_last hp hl
  obtain ⟨bytes⟩ := p
  obtain ⟨front, b, rfl⟩ := (List.eq_nil_or_concat bytes).resolve_left hne
  have hb : b ≠ Path.slash := by simpa [endsInSlash] using hslash
  unfold withoutFinalSlashes
  rw [List.concat_eq_append, List.reverse_append]
  simp [hb]

/-! ## What an attempt to make a directory comes to -/

/-- The outcomes of making the directory at `path`, whose last name is `last`
below the names `above`, together with what `isDirectory` says about it. -/
inductive Making (fs : FileSystem) (path : Path) (above : List Name) (last : Name) : Prop where
  | made (dir : Location) (enter : fs.enter (start fs.here path) above = .ok dir)
      (up : last ≠ Path.dotDot) (short : last.length ≤ maxNameLength)
      (absent : fs.entry? (last :: dir) = none)
      (result : fs.makeDirectory path = .ok (fs.put (last :: dir) .directory))
  | there (dir : Location) (enter : fs.enter (start fs.here path) above = .ok dir)
      (directory : last = Path.dotDot ∨
        last ≠ Path.dotDot ∧ fs.entry? (last :: dir) = some .directory)
      (result : fs.makeDirectory path = .error .fileExists) (is : fs.isDirectory path = true)
  | taken (dir : Location) (enter : fs.enter (start fs.here path) above = .ok dir)
      (up : last ≠ Path.dotDot) (short : last.length ≤ maxNameLength)
      (file : ∃ content executable, fs.entry? (last :: dir) = some (.file content executable))
      (result : fs.makeDirectory path = .error .fileExists) (is : fs.isDirectory path = false)
  | long (dir : Location) (enter : fs.enter (start fs.here path) above = .ok dir)
      (up : last ≠ Path.dotDot) (long : maxNameLength < last.length)
      (result : fs.makeDirectory path = .error .nameTooLong) (is : fs.isDirectory path = false)
  | stuck (e : Errno) (enter : fs.enter (start fs.here path) above = .error e)
      (result : fs.makeDirectory path = .error e) (is : fs.isDirectory path = false)

theorem making {fs : FileSystem} (free : fs.LinkFree) {p parent : Path} {above : List Name}
    {last : Name} (h : Path.Cut p parent above last) (short : p.bytes.length < maxPathLength) :
    Making fs p above last := by
  obtain ⟨init, hp⟩ := h.last_piece
  have hsame := withoutFinalSlashes_of_last hp h.last_ne.1
  cases henter : fs.enter (start fs.here p) above with
  | error e =>
      have hfind (follow : Bool) : fs.find follow p = .error e := by
        rw [find_cut free follow h, if_neg (Nat.not_le.mpr short), henter, Except.bind]
      exact .stuck e henter (by rw [makeDirectory, hsame, hfind])
        (by rw [isDirectory, stat, hfind])
  | ok dir =>
      have hfind (follow : Bool) : fs.find follow p = fs.arrive dir last := by
        rw [find_cut free follow h, if_neg (Nat.not_le.mpr short), henter, Except.bind]
      by_cases hup : last = Path.dotDot
      · have harrive : fs.arrive dir last = .ok (.entry dir.tail .directory) := by
          rw [arrive, if_neg h.last_ne.2, if_pos hup]
        exact .there dir henter (.inl hup) (by rw [makeDirectory, hsame, hfind, harrive])
          (by rw [isDirectory, stat, hfind, harrive])
      by_cases hlong : maxNameLength < last.length
      · have harrive : fs.arrive dir last = .error .nameTooLong := by
          rw [arrive, if_neg h.last_ne.2, if_neg hup, if_pos hlong]
        exact .long dir henter hup hlong (by rw [makeDirectory, hsame, hfind, harrive])
          (by rw [isDirectory, stat, hfind, harrive])
      have hshort := Nat.not_lt.mp hlong
      cases he : fs.entry? (last :: dir) with
      | none =>
          have harrive : fs.arrive dir last = .ok (.absent dir last) := by
            rw [arrive, if_neg h.last_ne.2, if_neg hup, if_neg hlong, he]
          exact .made dir henter hup hshort he (by rw [makeDirectory, hsame, hfind, harrive])
      | some e =>
          have harrive : fs.arrive dir last = .ok (.entry (last :: dir) e) := by
            rw [arrive, if_neg h.last_ne.2, if_neg hup, if_neg hlong, he]
          have hresult : fs.makeDirectory p = .error .fileExists := by
            rw [makeDirectory, hsame, hfind, harrive]
          cases e with
          | directory =>
              exact .there dir henter (.inr ⟨hup, he⟩) hresult
                (by rw [isDirectory, stat, hfind, harrive])
          | file content executable =>
              exact .taken dir henter hup hshort ⟨_, _, he⟩ hresult
                (by rw [isDirectory, stat, hfind, harrive])
          | link target => exact absurd he (free _ target)

/-- The start of a path is there already. -/
theorem making_nameless (fs : FileSystem) {p : Path} (h : p.Trim) (hn : p.names = [])
    (hb : p.bytes ≠ []) :
    holdsNul p.bytes = false ∧ fs.makeDirectory p = .error .fileExists ∧
      fs.isDirectory p = true := by
  have hfind (follow : Bool) (bytes : Bytes) (hbytes : bytes = [Path.slash] ∨ bytes = Path.dot) :
      ∃ loc, fs.find follow ⟨bytes⟩ = .ok (.entry loc .directory) := by
    have hsteps : steps ⟨bytes⟩ = [] ++ [Path.dot] := by rcases hbytes with rfl | rfl <;> rfl
    refine ⟨start fs.here ⟨bytes⟩, ?_⟩
    have hne : bytes ≠ [] := by rcases hbytes with rfl | rfl <;> simp [Path.dot]
    have hlen : ¬maxPathLength ≤ bytes.length := by
      rcases hbytes with rfl | rfl <;> simp [maxPathLength, Path.dot]
    rw [find, if_neg hne, if_neg hlen, hsteps]
    rfl
  have hbytes := (h.nameless hn).resolve_left hb
  obtain ⟨bytes⟩ := p
  have hsame : withoutFinalSlashes ⟨bytes⟩ = ⟨bytes⟩ := by
    rcases hbytes with h | h <;> simp only [] at h <;> subst h <;> rfl
  obtain ⟨loc, hfalse⟩ := hfind false bytes hbytes
  obtain ⟨loc', htrue⟩ := hfind true bytes hbytes
  refine ⟨?_, ?_, ?_⟩
  · rcases hbytes with h | h <;> simp only [] at h <;> subst h <;> rfl
  · rw [makeDirectory, hsame, hfalse]
  · rw [isDirectory, stat, htrue]

/-! ## Making all that is missing -/

/-- What has changed when some places were made directories. -/
structure Made (fs gs : FileSystem) (places : List Location) : Prop where
  wf : gs.WellFormed
  free : gs.LinkFree
  here_eq : gs.here = fs.here
  made : ∀ loc ∈ places, gs.entry? loc = some .directory
  others : ∀ loc, loc ∉ places → gs.entry? loc = fs.entry? loc
  /-- What was there has stayed as it was. -/
  kept : ∀ loc e, fs.entry? loc = some e → gs.entry? loc = some e

theorem Made.refl {fs : FileSystem} (wf : fs.WellFormed) (free : fs.LinkFree)
    {places : List Location} (h : ∀ loc ∈ places, fs.entry? loc = some .directory) :
    fs.Made fs places := ⟨wf, free, rfl, h, fun _ _ => rfl, fun _ _ h => h⟩

theorem Made.put {fs : FileSystem} (wf : fs.WellFormed) (free : fs.LinkFree) {name : Name}
    {dir : Location} (hname : EntryName name) (hdir : fs.entry? dir = some .directory)
    (absent : fs.entry? (name :: dir) = none) :
    fs.Made (fs.put (name :: dir) .directory) [name :: dir] := by
  have hput := fs.entry?_put (List.cons_ne_nil name dir) .directory
  refine ⟨wf.put hname hdir fun _ => rfl, free.put (by simp) (by simp), here_put .., ?_, ?_, ?_⟩
  · intro loc hloc
    rw [hput, if_pos (List.mem_singleton.mp hloc)]
  · intro loc hloc
    rw [hput, if_neg (mt List.mem_singleton.mpr hloc)]
  · intro loc e he
    rw [hput, if_neg, he]
    rintro rfl
    rw [absent] at he
    cases he

theorem Made.trans {fs gs hs : FileSystem} {places more : List Location} (h : fs.Made gs places)
    (h' : gs.Made hs more) : fs.Made hs (places ++ more) := by
  refine ⟨h'.wf, h'.free, h'.here_eq.trans h.here_eq, ?_, ?_, ?_⟩
  · intro loc hloc
    rcases List.mem_append.mp hloc with hloc | hloc
    · exact h'.kept loc _ (h.made loc hloc)
    · exact h'.made loc hloc
  · intro loc hloc
    obtain ⟨hplaces, hmore⟩ := not_or.mp (mt List.mem_append.mpr hloc)
    rw [h'.others loc hmore, h.others loc hplaces]
  · exact fun loc e he => h'.kept loc e (h.kept loc e he)

/-- A place that is a directory or could be made one. -/
def Open (fs : FileSystem) (loc : Location) : Prop :=
  fs.entry? loc = some .directory ∨
    fs.entry? loc = none ∧ ∀ name ∈ loc.head?, name.length ≤ maxNameLength

theorem Made.open {fs gs : FileSystem} {places : List Location} (h : fs.Made gs places)
    {loc : Location} (ho : fs.Open loc) : gs.Open loc := by
  by_cases hloc : loc ∈ places
  · exact .inl (h.made loc hloc)
  · unfold Open
    rw [h.others loc hloc]
    exact ho

theorem enter_directory {fs : FileSystem} (wf : fs.WellFormed) {dir place : Location}
    {names : List Name} (hdir : fs.entry? dir = some .directory)
    (h : fs.enter dir names = .ok place) : fs.entry? place = some .directory := by
  induction names generalizing dir with
  | nil =>
      obtain rfl : dir = place := Except.ok.inj h
      exact hdir
  | cons name rest ih =>
      rw [enter] at h
      split at h
      · exact ih hdir h
      · split at h
        · exact ih (wf.directory_tail hdir) h
        · split at h
          · cases h
          · split at h
            · cases h
            · next he => exact ih he h
            · cases h
            · cases h

theorem start_directory {fs : FileSystem} (wf : fs.WellFormed) (p : Path) :
    fs.entry? (start fs.here p) = some .directory := by
  unfold start
  split
  · rfl
  · exact wf.here

theorem trail_concat (dir : Location) (names : List Name) {last : Name} (h : last ≠ Path.dot) :
    trail dir (names ++ [last]) = trail dir names ++
      if last = Path.dotDot then [] else [last :: destination dir names] := by
  rw [trail_append, trail, if_neg h]
  split <;> rfl

/-- A name that is not there could be an entry's. -/
theorem arrive_absent {fs : FileSystem} {dir parent : Location} {name missing : Name}
    (h : fs.arrive dir name = .ok (.absent parent missing)) :
    parent = dir ∧ missing = name ∧ name ≠ Path.dot ∧ name ≠ Path.dotDot ∧
      name.length ≤ maxNameLength ∧ fs.entry? (name :: dir) = none := by
  unfold arrive at h
  split at h
  · cases h
  · next hdot =>
      split at h
      · cases h
      · next hup =>
          split at h
          · cases h
          · next hlong =>
              split at h
              · next he =>
                  obtain ⟨rfl, rfl⟩ := Found.absent.inj (Except.ok.inj h)
                  exact ⟨rfl, rfl, hdot, hup, Nat.not_lt.mp hlong, he⟩
              · cases h

theorem mem_pieces_of_mem_steps {p : Path} {name : Name} (h : name ∈ steps p)
    (hdot : name ≠ Path.dot) : name ≠ [] ∧ name ∈ p.pieces := by
  unfold steps at h
  rcases List.mem_append.mp h with h | h
  · obtain ⟨hmem, hne⟩ := List.mem_filter.mp h
    exact ⟨by simpa using hne, hmem⟩
  · split at h
    · exact absurd (List.mem_singleton.mp h) hdot
    · cases h

/-- What a path could be the path of. -/
theorem find_absent {fs : FileSystem} (wf : fs.WellFormed) (free : fs.LinkFree) {follow : Bool}
    {p : Path} {parent : Location} {name : Name} (h : fs.find follow p = .ok (.absent parent name)) :
    fs.entry? parent = some .directory ∧ fs.entry? (name :: parent) = none ∧
      Path.NormalName name ∧ name.length ≤ maxNameLength ∧ name ∈ p.pieces := by
  unfold find at h
  split at h
  · cases h
  · split at h
    · cases h
    · rcases List.eq_nil_or_concat (steps p) with hnil | ⟨init, last, hsteps⟩
      · rw [hnil] at h
        cases h
      · rw [List.concat_eq_append] at hsteps
        rw [hsteps, walk_concat free] at h
        cases henter : fs.enter (start fs.here p) init with
        | error e => rw [henter] at h; cases h
        | ok dir =>
            rw [henter] at h
            obtain ⟨rfl, rfl, hdot, hup, hshort, he⟩ := arrive_absent h
            have hlast : name ∈ steps p := by simp [hsteps]
            obtain ⟨hne, hmem⟩ := mem_pieces_of_mem_steps hlast hdot
            exact ⟨enter_directory wf (start_directory wf p) henter, he,
              ⟨hne, hdot, hup, Path.not_mem_of_mem_pieces hmem⟩, hshort, hmem⟩

theorem bytes_withoutFinalSlashes (p : Path) : (withoutFinalSlashes p).bytes <+: p.bytes := by
  unfold withoutFinalSlashes
  split
  · exact List.prefix_rfl
  · rw [← List.reverse_suffix, List.reverse_reverse]
    exact List.dropWhile_suffix _

/-- Whatever the path, making a directory puts one where a directory lacked an
entry. -/
theorem makeDirectory_eq_ok {fs gs : FileSystem} (wf : fs.WellFormed) (free : fs.LinkFree)
    {p : Path} (nul : holdsNul p.bytes = false) (h : fs.makeDirectory p = .ok gs) :
    ∃ loc, fs.entry? loc = none ∧ fs.Made gs [loc] := by
  unfold makeDirectory at h
  split at h
  · next parent name hfind =>
      obtain ⟨hparent, habsent, hname, hshort, hmem⟩ := find_absent wf free hfind
      have hno : 0 ∉ name := fun hz => (holdsNul_eq_false_iff _).mp nul
        ((bytes_withoutFinalSlashes p).subset (Separated.subset_of_mem_split hmem hz))
      rw [← Except.ok.inj h]
      exact ⟨_, habsent, .put wf free ⟨hname, hno, hshort⟩ hparent habsent⟩
  · cases h
  · cases h

/-! ## One attempt after the other -/

/-- Directories are made one after the other, each of them along one of some paths. -/
def MakesAlong (dirs : List Path) : FileSystem → FileSystem → Prop :=
  Relation.ReflTransGen fun fs gs => ∃ dir ∈ dirs, dir.access (fs.makeDirectory dir) = .ok gs

theorem MakesAlong.mono {dirs more : List Path} {fs gs : FileSystem} (h : MakesAlong dirs fs gs)
    (hsub : dirs ⊆ more) : MakesAlong more fs gs := by
  refine Relation.ReflTransGen.mono (fun fs gs hstep => ?_) _ _ h
  obtain ⟨dir, hdir, hmake⟩ := hstep
  exact ⟨dir, hsub hdir, hmake⟩

/-- Making nested directories is that, also if it fails halfway. -/
theorem makesAlong_makeNested (dirs : List Path) (fs : FileSystem) :
    MakesAlong dirs fs (fs.makeNested dirs).2 := by
  induction dirs generalizing fs with
  | nil => exact .refl
  | cons dir dirs ih =>
      have habove := (ih fs).mono (List.subset_cons_self dir dirs)
      rw [makeNested]
      split
      · exact .refl
      · split
        · next gs hmake => exact .single ⟨dir, List.mem_cons_self, hmake⟩
        · next hmissing =>
            split
            · next hgs => rw [hgs] at habove; exact habove
            · next gs hgs =>
                rw [hgs] at habove
                split
                · next hs hmake =>
                    have nul : holdsNul dir.bytes = false := by
                      by_contra hnul
                      rw [Path.access, if_pos (Bool.of_not_eq_false hnul)] at hmissing
                      simp [nulInPath] at hmissing
                    refine habove.tail ⟨dir, List.mem_cons_self, ?_⟩
                    exact (Path.access_eq_ok_iff ..).mpr ⟨nul, hmake⟩
                · exact habove
        · exact .refl

/-- Whatever was tried and whatever failed, some places have become directories and nothing
else has changed. -/
theorem MakesAlong.exists_made {dirs : List Path} {fs gs : FileSystem} (wf : fs.WellFormed)
    (free : fs.LinkFree) (h : MakesAlong dirs fs gs) : ∃ places, fs.Made gs places := by
  induction h with
  | refl => exact ⟨[], .refl wf free (by simp)⟩
  | tail _ hstep ih =>
      obtain ⟨places, hmade⟩ := ih
      obtain ⟨dir, -, hmake⟩ := hstep
      obtain ⟨nul, hmake⟩ := (Path.access_eq_ok_iff ..).mp hmake
      obtain ⟨loc, -, hmore⟩ := makeDirectory_eq_ok hmade.wf hmade.free nul hmake
      exact ⟨_, hmade.trans hmore⟩

section MakeNested

variable {fs : FileSystem} {p parent : Path} {above : List Name} {last : Name}

/-- The last step of making nested directories: the directory is made, or it is
there. -/
theorem makeLast (wf : fs.WellFormed) (free : fs.LinkFree) (h : Path.Cut p parent above last)
    (short : p.bytes.length < maxPathLength) (nul : holdsNul p.bytes = false)
    {place : Location} (henter : fs.enter (start fs.here p) above = .ok place)
    (hlast : last = Path.dotDot ∨ fs.Open (last :: place)) :
    (∃ gs, fs.makeDirectory p = .ok gs ∧
        fs.Made gs (if last = Path.dotDot then [] else [last :: place])) ∨
      fs.makeDirectory p = .error .fileExists ∧ fs.isDirectory p = true ∧
        fs.Made fs (if last = Path.dotDot then [] else [last :: place]) := by
  have hplace := enter_directory wf (start_directory wf p) henter
  cases making free h short with
  | made dir enter up short absent result =>
      obtain rfl : dir = place := Except.ok.inj (enter.symm.trans henter)
      rw [if_neg up]
      exact .inl ⟨_, result, .put wf free (h.entryName nul up short) hplace absent⟩
  | there dir enter directory result is =>
      obtain rfl : dir = place := Except.ok.inj (enter.symm.trans henter)
      refine .inr ⟨result, is, ?_⟩
      rcases directory with up | ⟨up, hd⟩
      · rw [if_pos up]
        exact .refl wf free (by simp)
      · rw [if_neg up]
        exact .refl wf free (by simpa using hd)
  | taken dir enter up short file result is =>
      obtain rfl : dir = place := Except.ok.inj (enter.symm.trans henter)
      obtain ⟨content, executable, he⟩ := file
      rcases hlast.resolve_left up with hd | ⟨hnone, -⟩
      · rw [hd] at he; cases he
      · rw [hnone] at he; cases he
  | long dir enter up long result is =>
      obtain rfl : dir = place := Except.ok.inj (enter.symm.trans henter)
      rcases hlast.resolve_left up with hd | ⟨-, hshort⟩
      · exact absurd (wf.entryName hd).short (Nat.not_le.mpr long)
      · exact absurd (hshort last rfl) (Nat.not_le.mpr long)
  | stuck e enter result is => rw [henter] at enter; cases enter

/-- If nothing but absence is in the way, all directories of a path are made and
nothing else happens. -/
theorem makeNested_made (names : List Name) : ∀ {fs : FileSystem} {p : Path} {n : Nat},
    fs.WellFormed → fs.LinkFree → p.Trim → p.names = names → p.bytes.length ≤ n →
    p.bytes.length < maxPathLength → holdsNul p.bytes = false →
    (∀ loc ∈ trail (start fs.here p) names, fs.Open loc) →
    ∃ gs, fs.makeNested (Path.ancestors.upTo n p) = (.ok (), gs) ∧
      fs.Made gs (trail (start fs.here p) names) := by
  induction names using List.reverseRecOn with
  | nil =>
      intro fs p n wf free trim hn hlen short nul _
      have hmade : fs.Made fs [] := .refl wf free (by simp)
      obtain ⟨rest, hrest⟩ := Path.exists_upTo_eq_cons n p
      rw [hrest, makeNested]
      split
      · exact ⟨fs, rfl, hmade⟩
      · next hb =>
          obtain ⟨-, hmake, his⟩ := making_nameless fs trim hn hb
          refine ⟨fs, ?_, hmade⟩
          rw [Path.access_of_not_holdsNul nul, hmake]
          simp only [Except.mapError, his, if_true]
  | append_singleton above last ih =>
      intro fs p n wf free trim hn hlen short nul hopen
      obtain ⟨parent, hcut⟩ := trim.cut hn
      obtain ⟨m, hm, hup⟩ := hcut.upTo_eq hlen
      have hb : p.bytes ≠ [] := List.length_pos_iff.mp (by have := hcut.shorter; omega)
      rw [trail_concat _ _ hcut.last_ne.2] at hopen ⊢
      have hstart : start fs.here parent = start fs.here p := by
        rw [start, start, hcut.isAbsolute_eq]
      have habove := fun loc hloc => hopen loc (List.mem_append_left _ hloc)
      have hlast : last = Path.dotDot ∨
          fs.Open (last :: destination (start fs.here p) above) := by
        by_cases up : last = Path.dotDot
        · exact .inl up
        · exact .inr (hopen _ (List.mem_append_right _ (by simp [up])))
      rw [hup, makeNested, if_neg hb, Path.access_of_not_holdsNul nul]
      rcases enter_of_no_files habove wf with henter | henter
      · have htrail : fs.Made fs (trail (start fs.here p) above) :=
          .refl wf free ((enter_eq_ok_iff wf ..).mp henter).2
        rcases makeLast wf free hcut short nul henter hlast with ⟨gs, hmake, hmade⟩ |
          ⟨hmake, his, hmade⟩
        · refine ⟨gs, ?_, htrail.trans hmade⟩
          rw [hmake]; rfl
        · refine ⟨fs, ?_, htrail.trans hmade⟩
          rw [hmake]
          simp only [Except.mapError, his, if_true]
      · -- something is missing above: it is made first, and then the rest is as before
        have hmissing : fs.makeDirectory p = .error .noEntry := by
          cases making free hcut short with
          | stuck e enter result is => rw [result, Except.error.inj (enter.symm.trans henter)]
          | made dir enter => rw [henter] at enter; cases enter
          | there dir enter => rw [henter] at enter; cases enter
          | taken dir enter => rw [henter] at enter; cases enter
          | long dir enter => rw [henter] at enter; cases enter
        obtain ⟨gs, hgs, hmade⟩ := ih wf free hcut.trim hcut.parent_names hm
          (Nat.lt_trans hcut.shorter short) (hcut.holdsNul_parent nul) (hstart ▸ habove)
        rw [hstart] at hmade
        have henter' : gs.enter (start gs.here p) above =
            .ok (destination (start fs.here p) above) := by
          rw [hmade.here_eq]
          exact (enter_eq_ok_iff hmade.wf ..).mpr ⟨rfl, hmade.made⟩
        simp only [hmissing, Except.mapError, hgs]
        rcases makeLast hmade.wf hmade.free hcut short nul henter' (hlast.imp_right hmade.open) with
          ⟨hs, hmake, hmade'⟩ | ⟨hmake, his, hmade'⟩
        · refine ⟨hs, ?_, hmade.trans hmade'⟩
          rw [hmake]
        · refine ⟨gs, ?_, hmade.trans hmade'⟩
          rw [hmake]
          simp only [his, if_true]

end MakeNested

end FileSystem

end GoldenFiles
