import GoldenFiles.Proofs.FileSystem.Opening
import Mathlib.Data.List.TakeWhile

/-!
# A file system that several writers share

Writers that make the directories of one and the same path, and each a file of
its own in the last of them, meet in every directory on the way. What a writer
finds there depends on how far the others have got, and so does which of its own
calls fails and how often it tries. What it comes to in the end does not. A place
on the way either is `Open` from the start, and then it is a directory sooner or
later, or it is not, and then no writer ever gets past it.

`World` says what the writers may do between them, and `Holds` what is left of
the original file system whatever they have done so far. On such a file system a
walk along the way is stopped where the original one lets nobody pass, unless
something is still missing before that: `entering`. An attempt to make a directory
comes to one of the four things that `Attempt` lists.
-/

namespace GoldenFiles.FileSystem

/-- Places that are all directories. -/
def Stands (fs : FileSystem) (places : List Location) : Prop :=
  ∀ loc ∈ places, fs.entry? loc = some .directory

instance (fs : FileSystem) (loc : Location) : Decidable (fs.Open loc) := by
  unfold Open
  infer_instance

/-- Whether no directory can hold the last name of a place. -/
def tooLong (loc : Location) : Bool := loc.head?.any fun name => maxNameLength < name.length

theorem tooLong_cons (name : Name) (dir : Location) :
    tooLong (name :: dir) = decide (maxNameLength < name.length) := rfl

/-- The part of a way that can be made directories. -/
def clear (fs : FileSystem) (way : List Location) : List Location := way.takeWhile (fs.Open ·)

/-- The part of a way that begins where nobody gets past. -/
def barred (fs : FileSystem) (way : List Location) : List Location := way.dropWhile (fs.Open ·)

/-- What making all directories on a way fails with in the end, if it does. -/
def refusal (fs : FileSystem) (way : List Location) : Option Errno :=
  match fs.barred way with
  | [] => none
  | loc :: rest =>
      some (if tooLong loc then .nameTooLong else if rest = [] then .fileExists else .notDirectory)

section Ways

variable {fs : FileSystem} {way : List Location} {loc : Location}

theorem open_of_absent (h : fs.entry? loc = none) (short : tooLong loc = false) : fs.Open loc := by
  refine .inr ⟨h, fun name hname => ?_⟩
  rw [tooLong, hname] at short
  simpa using short

theorem WellFormed.not_open_of_tooLong (wf : fs.WellFormed) (h : tooLong loc = true) :
    ¬fs.Open loc := by
  obtain ⟨name, hname, hlong⟩ := (Option.any_eq_true ..).mp h
  have hlong : maxNameLength < name.length := by simpa using hlong
  rintro (hd | ⟨-, hshort⟩)
  · exact absurd (wf.names hd name (List.mem_of_mem_head? hname)).short (Nat.not_le.mpr hlong)
  · exact absurd (hshort name hname) (Nat.not_le.mpr hlong)

theorem barred_eq_nil_iff : fs.barred way = [] ↔ ∀ loc ∈ way, fs.Open loc := by
  simp [barred, List.dropWhile_eq_nil_iff]

theorem of_barred {rest : List Location} (h : fs.barred way = loc :: rest) :
    loc ∈ way ∧ ¬fs.Open loc := by
  have hmem : loc ∈ fs.barred way := by simp [h]
  have hhead : (fs.barred way).head? = some loc := by simp [h]
  refine ⟨(List.dropWhile_suffix _).subset hmem, fun hopen => ?_⟩
  have hnot := List.head?_dropWhile_not (fun l => decide (fs.Open l)) way
  rw [barred] at hhead
  simp [hhead, hopen] at hnot

theorem clear_of_barred_eq_nil (h : fs.barred way = []) : fs.clear way = way :=
  List.takeWhile_eq_self_iff.mpr fun loc hloc => by simpa using barred_eq_nil_iff.mp h loc hloc

theorem refusal_eq_none_iff : fs.refusal way = none ↔ fs.barred way = [] := by
  unfold refusal
  cases fs.barred way <;> simp

theorem clear_concat (way : List Location) (loc : Location) : fs.clear (way ++ [loc]) =
    if fs.barred way = [] then way ++ fs.clear [loc] else fs.clear way := by
  rw [clear, List.takeWhile_append]
  by_cases h : fs.barred way = []
  · have hall : way.takeWhile (fs.Open ·) = way := clear_of_barred_eq_nil h
    rw [if_pos (by rw [hall]), if_pos h]
    rfl
  · rw [if_neg, if_neg h]
    · rfl
    · intro hlen
      refine h (barred_eq_nil_iff.mpr fun l hl => ?_)
      have hall := (List.takeWhile_prefix (l := way) (fs.Open ·)).eq_of_length hlen
      simpa using List.takeWhile_eq_self_iff.mp hall l hl

theorem barred_concat (way : List Location) (loc : Location) : fs.barred (way ++ [loc]) =
    if fs.barred way = [] then fs.barred [loc] else fs.barred way ++ [loc] := by
  rw [barred, List.dropWhile_append]
  simp [barred]

theorem refusal_concat_of_clear (h : fs.barred way = []) (hno : ¬fs.Open loc) :
    fs.refusal (way ++ [loc]) = some (if tooLong loc then .nameTooLong else .fileExists) ∧
      fs.clear (way ++ [loc]) = way := by
  have hlast : fs.barred [loc] = [loc] := List.dropWhile_cons_of_neg (by simpa using hno)
  have hnone : fs.clear [loc] = [] := List.takeWhile_cons_of_neg (by simpa using hno)
  rw [refusal, barred_concat, if_pos h, hlast, clear_concat, if_pos h, hnone, List.append_nil]
  exact ⟨rfl, rfl⟩

theorem refusal_concat_of_barred {first : Location} {rest : List Location} (loc : Location)
    (h : fs.barred way = first :: rest) :
    fs.refusal (way ++ [loc]) = some (if tooLong first then .nameTooLong else .notDirectory) ∧
      fs.clear (way ++ [loc]) = fs.clear way := by
  have hne : fs.barred way ≠ [] := by simp [h]
  rw [refusal, barred_concat, if_neg hne, h, clear_concat, if_neg hne, List.cons_append]
  simp

end Ways

/-! ## Places on a way that never goes up -/

theorem suffix_of_mem_trail {dir : Location} {names : List Name} (up : Path.dotDot ∉ names) :
    ∀ loc ∈ trail dir names, dir <:+ loc ∧ loc <:+ destination dir names := by
  induction names generalizing dir with
  | nil => simp [trail]
  | cons name rest ih =>
      obtain ⟨hname, hrest⟩ := not_or.mp (mt List.mem_cons.mpr up)
      rw [trail, destination]
      split
      · exact ih hrest
      · rw [if_neg (Ne.symm hname), if_neg (Ne.symm hname)]
        intro loc hloc
        rcases List.mem_cons.mp hloc with rfl | hloc
        · exact ⟨List.suffix_cons name dir, suffix_destination hrest⟩
        · obtain ⟨habove, hbelow⟩ := ih hrest loc hloc
          exact ⟨(List.suffix_cons name dir).trans habove, hbelow⟩

/-- A name on a way that never goes up is the last one of some place on it. -/
theorem exists_mem_trail (dir : Location) {names : List Name} {name : Name}
    (up : Path.dotDot ∉ names) (h : name ∈ names) (hdot : name ≠ Path.dot) :
    ∃ above, name :: above ∈ trail dir names := by
  induction names generalizing dir with
  | nil => cases h
  | cons first rest ih =>
      obtain ⟨hfirst, hrest⟩ := not_or.mp (mt List.mem_cons.mpr up)
      rw [trail]
      rcases List.mem_cons.mp h with rfl | h
      · rw [if_neg hdot, if_neg (Ne.symm hfirst)]
        exact ⟨dir, List.mem_cons_self⟩
      · split
        · exact ih _ hrest h
        · rw [if_neg (Ne.symm hfirst)]
          obtain ⟨above, habove⟩ := ih (first :: dir) hrest h
          exact ⟨above, List.mem_cons_of_mem _ habove⟩

theorem Stands.holdsNul_eq_false {fs : FileSystem} (wf : fs.WellFormed) {p : Path} {dir : Location}
    (up : Path.dotDot ∉ p.names) (h : fs.Stands (trail dir p.names)) :
    holdsNul p.bytes = false := by
  rw [holdsNul_eq_false_iff]
  intro hnul
  obtain ⟨piece, hpiece, hmem⟩ := Separated.exists_mem_split hnul (show 0 ≠ Path.slash by decide)
  have hne : piece ≠ [] ∧ piece ≠ Path.dot :=
    ⟨List.ne_nil_of_mem hmem, by rintro rfl; revert hmem; decide⟩
  have hname : piece ∈ p.names := List.mem_filter.mpr ⟨hpiece, by simpa [Path.isIgnored] using hne⟩
  obtain ⟨above, habove⟩ := exists_mem_trail dir up hname hne.2
  exact (wf.entryName (h _ habove)).no_nul hmem

theorem WellFormed.absent_of_suffix {fs : FileSystem} (wf : fs.WellFormed) {above loc : Location}
    (h : fs.entry? above = none) (hs : above <:+ loc) : fs.entry? loc = none := by
  cases he : fs.entry? loc with
  | none => rfl
  | some e =>
      by_cases heq : above = loc
      · rw [heq, he] at h; cases h
      · rw [wf.directory_of_suffix he hs heq] at h; cases h

/-! ## What writers leave of a file system -/

/-- A file system and what its writers may do to it. -/
structure World where
  origin : FileSystem
  /-- Where directories may be made. -/
  places : List Location
  /-- Where files may be written. -/
  outputs : List Location
  wf : origin.WellFormed
  free : origin.LinkFree
  apart : ∀ loc ∈ places, loc ∉ outputs

/-- A file system that the writers may have come to. -/
structure World.Holds (w : World) (fs : FileSystem) : Prop where
  wf : fs.WellFormed
  free : fs.LinkFree
  here_eq : fs.here = w.origin.here
  entry : ∀ loc, fs.entry? loc = w.origin.entry? loc ∨
    (loc ∈ w.places ∧ w.origin.entry? loc = none ∧ fs.entry? loc = some .directory) ∨
    (loc ∈ w.outputs ∧ w.origin.entry? loc ≠ some .directory ∧
      ∃ content executable, fs.entry? loc = some (.file content executable))

namespace World

variable {w : World} {fs gs : FileSystem} {loc : Location}

theorem holds_origin (w : World) : w.Holds w.origin := ⟨w.wf, w.free, rfl, fun _ => .inl rfl⟩

namespace Holds

theorem directory (h : w.Holds fs) (hd : w.origin.entry? loc = some .directory) :
    fs.entry? loc = some .directory := by
  rcases h.entry loc with heq | ⟨-, hnone, -⟩ | ⟨-, hno, -⟩
  · rw [heq, hd]
  · rw [hd] at hnone; cases hnone
  · exact absurd hd hno

/-- A directory has been one from the start, or has been made where one may be. -/
theorem was_directory (h : w.Holds fs) (hd : fs.entry? loc = some .directory) :
    w.origin.entry? loc = some .directory ∨ w.origin.entry? loc = none := by
  rcases h.entry loc with heq | ⟨-, hnone, -⟩ | ⟨-, -, content, executable, hf⟩
  · exact .inl (heq ▸ hd)
  · exact .inr hnone
  · rw [hd] at hf; cases hf

theorem open_of_directory (h : w.Holds fs) (hd : fs.entry? loc = some .directory) :
    w.origin.Open loc :=
  (h.was_directory hd).imp_right fun hnone =>
    ⟨hnone, fun name hname => (h.wf.names hd name (List.mem_of_mem_head? hname)).short⟩

theorem barred_eq_nil {way : List Location} (h : w.Holds fs) (all : fs.Stands way) :
    w.origin.barred way = [] :=
  barred_eq_nil_iff.mpr fun loc hloc => h.open_of_directory (all loc hloc)

/-- Away from the outputs nothing that is no directory has changed. -/
theorem away (h : w.Holds fs) (hloc : loc ∉ w.outputs) (hd : fs.entry? loc ≠ some .directory) :
    w.origin.entry? loc = fs.entry? loc := by
  rcases h.entry loc with heq | ⟨-, -, hmade⟩ | ⟨hout, -⟩
  · exact heq.symm
  · exact absurd hmade hd
  · exact absurd hout hloc

theorem unchanged (h : w.Holds fs) (hout : loc ∉ w.outputs) (hplace : loc ∉ w.places) :
    fs.entry? loc = w.origin.entry? loc := by
  rcases h.entry loc with heq | ⟨hmem, -⟩ | ⟨hmem, -⟩
  · exact heq
  · exact absurd hmem hplace
  · exact absurd hmem hout

/-- A file that is no output is still there, and no file has come. -/
theorem file_iff (h : w.Holds fs) (hloc : loc ∉ w.outputs) (content : Bytes) (executable : Bool) :
    fs.entry? loc = some (.file content executable) ↔
      w.origin.entry? loc = some (.file content executable) := by
  constructor
  · intro hf
    rw [h.away hloc (by simp [hf]), hf]
  · intro hf
    rcases h.entry loc with heq | ⟨-, hnone, -⟩ | ⟨hout, -⟩
    · rw [heq, hf]
    · rw [hf] at hnone; cases hnone
    · exact absurd hout hloc

/-- A path that led to a directory at first leads there still. -/
theorem enter (h : w.Holds fs) {p : Path} {place : Location}
    (hp : w.origin.enter (start w.origin.here p) p.names = .ok place) :
    fs.enter (start fs.here p) p.names = .ok place := by
  obtain ⟨hplace, hway⟩ := (enter_eq_ok_iff w.wf ..).mp hp
  rw [h.here_eq]
  exact (enter_eq_ok_iff h.wf ..).mpr ⟨hplace, fun loc hloc => h.directory (hway loc hloc)⟩

theorem stat_directory (h : w.Holds fs) {p : Path} {place : Location}
    (hp : w.origin.stat p = .ok (place, .directory)) : fs.stat p = .ok (place, .directory) := by
  obtain ⟨hb, short⟩ := path_of_stat hp
  exact stat_of_enter h.free hb short (h.enter (enter_of_stat w.free hp))

theorem not_open_of_file (h : w.Holds fs) (hloc : loc ∉ w.outputs) {content : Bytes}
    {executable : Bool} (hf : fs.entry? loc = some (.file content executable)) :
    ¬w.origin.Open loc := by
  have horigin := h.away hloc (by rw [hf]; simp)
  rw [hf] at horigin
  rintro (hd | ⟨hnone, -⟩)
  · rw [hd] at horigin; cases horigin
  · rw [hnone] at horigin; cases horigin

theorem put (h : w.Holds fs) {name : Name} {dir : Location} {e : Entry} (hname : EntryName name)
    (hdir : fs.entry? dir = some .directory) (old : fs.entry? (name :: dir) ≠ some .directory)
    (allowed : (e = .directory ∧ name :: dir ∈ w.places ∧ fs.entry? (name :: dir) = none) ∨
      (∃ content executable, e = .file content executable) ∧ name :: dir ∈ w.outputs) :
    w.Holds (fs.put (name :: dir) e) := by
  have hput := fs.entry?_put (List.cons_ne_nil name dir) e
  refine ⟨h.wf.put hname hdir (fun hd => absurd hd old), h.free.put (by simp) ?_, ?_, ?_⟩
  · rintro target rfl
    rcases allowed with ⟨hdirectory, -⟩ | ⟨⟨content, executable, hfile⟩, -⟩
    · cases hdirectory
    · cases hfile
  · rw [here_put, h.here_eq]
  · intro loc
    rw [hput]
    split
    · next heq =>
        subst heq
        right
        rcases allowed with ⟨rfl, hplace, hnone⟩ | ⟨⟨content, executable, rfl⟩, hout⟩
        · refine .inl ⟨hplace, ?_, rfl⟩
          rw [h.away (w.apart _ hplace) old, hnone]
        · exact .inr ⟨hout, fun hd => old (h.directory hd), content, executable, rfl⟩
    · exact h.entry loc

end Holds

end World

/-! ## Walking along a shared way -/

/-- What entering the directories on a way to a place comes to. -/
inductive Entering (w : World) (fs : FileSystem) (place : Location) (way : List Location) :
    Except Errno Location → Prop where
  | inside (all : fs.Stands way) : Entering w fs place way (.ok place)
  | stopped (loc : Location) (rest : List Location) (stop : w.origin.barred way = loc :: rest)
      (before : fs.Stands (w.origin.clear way)) :
      Entering w fs place way (.error (if tooLong loc then .nameTooLong else .notDirectory))
  | missing (absent : ∃ loc ∈ way, fs.entry? loc = none)
      (long : ∀ loc rest, w.origin.barred way = loc :: rest → tooLong loc = true) :
      Entering w fs place way (.error .noEntry)

section Walks

variable {w : World} {fs : FileSystem} {place loc : Location} {way : List Location}

theorem Entering.cons {result : Except Errno Location} (h : Entering w fs place way result)
    (holds : w.Holds fs) (hd : fs.entry? loc = some .directory) :
    Entering w fs place (loc :: way) result := by
  have hopen : decide (w.origin.Open loc) = true := by simpa using holds.open_of_directory hd
  have hbarred : w.origin.barred (loc :: way) = w.origin.barred way :=
    List.dropWhile_cons_of_pos hopen
  have hclear : w.origin.clear (loc :: way) = loc :: w.origin.clear way :=
    List.takeWhile_cons_of_pos hopen
  cases h with
  | inside all => exact .inside (List.forall_mem_cons.mpr ⟨hd, all⟩)
  | stopped first rest stop before =>
      exact .stopped first rest (hbarred.trans stop)
        (hclear ▸ List.forall_mem_cons.mpr ⟨hd, before⟩)
  | missing absent long =>
      obtain ⟨l, hl, hnone⟩ := absent
      exact .missing ⟨l, List.mem_cons_of_mem _ hl, hnone⟩ (hbarred ▸ long)

theorem Entering.at_once (hno : ¬w.origin.Open loc) : Entering w fs place (loc :: way)
    (.error (if tooLong loc then .nameTooLong else .notDirectory)) := by
  have hbarred : w.origin.barred (loc :: way) = loc :: way :=
    List.dropWhile_cons_of_neg (by simpa using hno)
  have hclear : w.origin.clear (loc :: way) = [] :=
    List.takeWhile_cons_of_neg (by simpa using hno)
  exact .stopped loc way hbarred (by simp [Stands, hclear])

theorem entering (h : w.Holds fs) {names : List Name} {dir : Location}
    (up : Path.dotDot ∉ names) (away : ∀ loc ∈ trail dir names, loc ∉ w.outputs) :
    Entering w fs (destination dir names) (trail dir names) (fs.enter dir names) := by
  induction names generalizing dir with
  | nil => exact .inside (by simp [Stands, trail])
  | cons name rest ih =>
      obtain ⟨hname, hrest⟩ := not_or.mp (mt List.mem_cons.mpr up)
      rw [destination, enter]
      rw [trail] at away ⊢
      by_cases hdot : name = Path.dot
      · simp only [if_pos hdot] at away ⊢
        exact ih hrest away
      · simp only [if_neg hdot, if_neg (Ne.symm hname)] at away ⊢
        obtain ⟨hout, haway⟩ := List.forall_mem_cons.mp away
        by_cases hlong : maxNameLength < name.length
        · rw [if_pos hlong]
          have hstop : Entering w fs (destination (name :: dir) rest)
              ((name :: dir) :: trail (name :: dir) rest) _ :=
            .at_once (w.wf.not_open_of_tooLong (by simpa [tooLong_cons] using hlong))
          rwa [tooLong_cons, if_pos (decide_eq_true hlong)] at hstop
        · rw [if_neg hlong]
          cases he : fs.entry? (name :: dir) with
          | none =>
              refine .missing ⟨_, List.mem_cons_self, he⟩ fun loc others hloc => ?_
              -- nothing is below what is missing, so only a name can be in the way
              have horigin : w.origin.entry? (name :: dir) = none :=
                (h.away hout (by rw [he]; simp)).trans he
              obtain ⟨hmem, hno⟩ := of_barred hloc
              have hbelow : name :: dir <:+ loc := by
                rcases List.mem_cons.mp hmem with rfl | hmem
                · exact List.suffix_rfl
                · exact (suffix_of_mem_trail hrest loc hmem).1
              by_contra hshort
              exact hno (open_of_absent (w.wf.absent_of_suffix horigin hbelow)
                (Bool.of_not_eq_true hshort))
          | some e =>
              cases e with
              | directory => exact (ih hrest haway).cons h he
              | file content executable =>
                  have hstop : Entering w fs (destination (name :: dir) rest)
                      ((name :: dir) :: trail (name :: dir) rest) _ :=
                    .at_once (h.not_open_of_file hout he)
                  rwa [tooLong_cons, if_neg (by simpa using hlong)] at hstop
              | link target => exact absurd he (h.free _ target)

end Walks

theorem isDirectory_iff {fs : FileSystem} (wf : fs.WellFormed) (free : fs.LinkFree) {p : Path}
    (hb : p.bytes ≠ []) (short : p.bytes.length < maxPathLength) :
    fs.isDirectory p = true ↔ fs.Stands (trail (start fs.here p) p.names) := by
  have hdirectory : fs.isDirectory p = true ↔ ∃ place, fs.stat p = .ok (place, .directory) := by
    unfold isDirectory
    split
    · next place h => exact iff_of_true rfl ⟨place, h⟩
    · next hno => exact iff_of_false (by simp) (not_exists.mpr hno)
  rw [hdirectory]
  constructor
  · rintro ⟨place, h⟩
    exact ((enter_eq_ok_iff wf ..).mp (enter_of_stat free h)).2
  · intro h
    exact ⟨_, stat_of_enter free hb short ((enter_eq_ok_iff wf ..).mpr ⟨rfl, h⟩)⟩

theorem makeDirectory_of_long {fs : FileSystem} {p : Path} (trim : p.Trim)
    (long : maxPathLength ≤ p.bytes.length) :
    fs.makeDirectory p = .error .nameTooLong ∧ fs.isDirectory p = false := by
  have hb : p.bytes ≠ [] := by
    intro hb
    rw [hb] at long
    simp [maxPathLength] at long
  have hfind (follow : Bool) : fs.find follow p = .error .nameTooLong := by
    rw [find, if_neg hb, if_pos long]
  constructor
  · rcases List.eq_nil_or_concat p.names with hn | ⟨above, last, hn⟩
    · rcases trim.nameless hn with h | h | h <;> rw [h] at long <;>
        simp [maxPathLength, Path.dot] at long
    · obtain ⟨parent, hcut⟩ := trim.cut (hn.trans (List.concat_eq_append ..))
      obtain ⟨init, hp⟩ := hcut.last_piece
      rw [makeDirectory, withoutFinalSlashes_of_last hp hcut.last_ne.1, hfind]
  · rw [isDirectory, stat, hfind]

/-! ## Making a directory where others do -/

namespace World

/-- The places on the way along a path. -/
def way (w : World) (p : Path) : List Location := trail (start w.origin.here p) p.names

/-- The place where the way along a path ends. -/
def goal (w : World) (p : Path) : Location := destination (start w.origin.here p) p.names

/-- A path along which the writers may make directories. -/
structure Route (w : World) (p : Path) : Prop where
  up : Path.dotDot ∉ p.names
  away : ∀ loc ∈ w.way p, loc ∉ w.outputs
  reach : ∀ loc ∈ w.origin.clear (w.way p), loc ∈ w.places
  short : p.bytes.length < maxPathLength
  nul : holdsNul p.bytes = false

section Cuts

variable {w : World} {fs : FileSystem} {p parent : Path} {above : List Name} {last : Name}

theorem way_of_cut (cut : Path.Cut p parent above last) (up : last ≠ Path.dotDot) : w.way p =
    w.way parent ++ [last :: w.goal parent] := by
  rw [goal, way, way, cut.names_eq, cut.parent_names, trail_concat _ _ cut.last_ne.2, if_neg up, start,
    start, cut.isAbsolute_eq]

theorem Route.last_ne (route : w.Route p) (cut : Path.Cut p parent above last) :
    last ≠ Path.dotDot := by
  rintro rfl
  exact route.up (by simp [cut.names_eq])

/-- What may be made along a path may be made along the path of its parent. -/
theorem Route.of_cut (route : w.Route p) (cut : Path.Cut p parent above last) : w.Route parent := by
  have hway := way_of_cut (w := w) cut (route.last_ne cut)
  refine ⟨?_, ?_, ?_, Nat.lt_trans cut.shorter route.short, cut.holdsNul_parent route.nul⟩
  · rw [cut.parent_names]
    exact fun hup => route.up (by simp [cut.names_eq, hup])
  · exact fun loc hloc => route.away loc (by simp [hway, hloc])
  · intro loc hloc
    refine route.reach loc ?_
    rw [hway, clear_concat]
    split
    · exact List.mem_append_left _ ((List.takeWhile_prefix _).subset hloc)
    · exact hloc

end Cuts

end World

/-- What trying to make the directory at `p` inside the one at `parent` comes to. -/
inductive Attempt (w : World) (fs : FileSystem) (p parent : Path) :
    Except Errno FileSystem → Prop where
  | made (gs : FileSystem) (holds : w.Holds gs)
      (kept : ∀ loc, fs.entry? loc = some .directory → gs.entry? loc = some .directory)
      (others : ∀ loc ∈ w.outputs, gs.entry? loc = fs.entry? loc) (all : gs.Stands (w.way p)) :
      Attempt w fs p parent (.ok gs)
  | there (all : fs.Stands (w.way p)) : Attempt w fs p parent (.error .fileExists)
  | refused (e : Errno) (ne : e ≠ .noEntry) (why : w.origin.refusal (w.way p) = some e)
      (before : fs.Stands (w.origin.clear (w.way p))) : Attempt w fs p parent (.error e)
  | missing (absent : ∃ loc ∈ w.way parent, fs.entry? loc = none)
      (long : ∀ loc rest, w.origin.barred (w.way parent) = loc :: rest → tooLong loc = true) :
      Attempt w fs p parent (.error .noEntry)

section Attempts

variable {w : World} {fs : FileSystem} {p parent : Path} {above : List Name} {last : Name}

/-- A directory may be made at the end of a way that is clear up to there. -/
theorem Attempt.of_put (h : w.Holds fs) (route : w.Route p) (cut : Path.Cut p parent above last)
    (all : fs.Stands (w.way parent)) (hdir : fs.entry? (w.goal parent) = some .directory)
    (short : last.length ≤ maxNameLength) (absent : fs.entry? (last :: w.goal parent) = none) :
    Attempt w fs p parent (.ok (fs.put (last :: w.goal parent) .directory)) := by
  have hway := World.way_of_cut (w := w) cut (route.last_ne cut)
  have hloc : last :: w.goal parent ∉ w.outputs := route.away _ (by simp [hway])
  have hopen := open_of_absent ((h.away hloc (by simp [absent])).trans absent)
    (by rw [tooLong_cons]; simpa using short)
  have hreach : last :: w.goal parent ∈ w.places := by
    refine route.reach _ ?_
    rw [hway, clear_concat, if_pos (h.barred_eq_nil all)]
    simp [clear, hopen]
  have hput := fs.entry?_put (List.cons_ne_nil last (w.goal parent)) .directory
  have hkept (loc : Location) (hd : fs.entry? loc = some .directory) :
      entry? (fs.put (last :: w.goal parent) .directory) loc = some .directory := by
    rw [hput, hd]
    split <;> rfl
  have hname := cut.entryName route.nul (route.last_ne cut) short
  refine .made _ (h.put hname hdir (by simp [absent]) (.inl ⟨rfl, hreach, absent⟩)) hkept ?_ ?_
  · intro loc hout
    rw [hput, if_neg]
    rintro rfl
    exact hloc hout
  · rw [hway]
    intro loc hmem
    rcases List.mem_append.mp hmem with hmem | hmem
    · exact hkept loc (all loc hmem)
    · rw [hput, if_pos (List.mem_singleton.mp hmem)]

/-- What makes the end of a way no place for a directory refuses the whole way. -/
theorem Attempt.of_not_open (h : w.Holds fs) (route : w.Route p)
    (cut : Path.Cut p parent above last) (all : fs.Stands (w.way parent))
    (hno : ¬w.origin.Open (last :: w.goal parent)) : Attempt w fs p parent
      (.error (if maxNameLength < last.length then .nameTooLong else .fileExists)) := by
  have hway := World.way_of_cut (w := w) cut (route.last_ne cut)
  obtain ⟨hwhy, hbefore⟩ := refusal_concat_of_clear (h.barred_eq_nil all) hno
  rw [← hway, tooLong_cons] at hwhy
  rw [← hway] at hbefore
  refine .refused _ (by split <;> simp) ?_ (hbefore.symm ▸ all)
  simpa using hwhy

theorem attempt (h : w.Holds fs) (route : w.Route p) (cut : Path.Cut p parent above last) :
    Attempt w fs p parent (fs.makeDirectory p) := by
  have hway := World.way_of_cut (w := w) cut (route.last_ne cut)
  have hparent := route.of_cut cut
  have henter : Entering w fs (w.goal parent) (w.way parent) _ := entering h hparent.up hparent.away
  have hsame : fs.enter (start w.origin.here parent) parent.names =
      fs.enter (start fs.here p) above := by
    rw [start, start, cut.isAbsolute_eq, h.here_eq, cut.parent_names]
  have hloc : last :: w.goal parent ∉ w.outputs := route.away _ (by simp [hway])
  rw [hsame] at henter
  cases making h.free cut route.short with
  | made dir enter up short absent result =>
      rw [enter] at henter
      rw [result]
      cases henter with
      | inside all =>
          have hdir := enter_directory h.wf (start_directory h.wf p) enter
          exact .of_put h route cut all hdir short absent
  | there dir enter directory result is =>
      rw [enter] at henter
      rw [result]
      cases henter with
      | inside all =>
          refine .there ?_
          rw [hway]
          intro loc hmem
          rcases List.mem_append.mp hmem with hmem | hmem
          · exact all loc hmem
          · rw [List.mem_singleton.mp hmem]
            exact (directory.resolve_left (route.last_ne cut)).2
  | taken dir enter up short file result is =>
      rw [enter] at henter
      rw [result]
      cases henter with
      | inside all =>
          obtain ⟨content, executable, hf⟩ := file
          have hrefused := Attempt.of_not_open h route cut all (h.not_open_of_file hloc hf)
          rwa [if_neg (Nat.not_lt.mpr short)] at hrefused
  | long dir enter up long result is =>
      rw [enter] at henter
      rw [result]
      cases henter with
      | inside all =>
          have hrefused := Attempt.of_not_open h route cut all
            (w.wf.not_open_of_tooLong (by simpa [tooLong_cons] using long))
          rwa [if_pos long] at hrefused
  | stuck e enter result is =>
      rw [enter] at henter
      rw [result]
      cases henter with
      | stopped loc rest stop before =>
          obtain ⟨hwhy, hbefore⟩ := refusal_concat_of_barred (last :: w.goal parent) stop
          exact .refused _ (by split <;> simp) (hway ▸ hwhy) (hway ▸ hbefore.symm ▸ before)
      | missing absent long => exact .missing absent long

end Attempts

end GoldenFiles.FileSystem
