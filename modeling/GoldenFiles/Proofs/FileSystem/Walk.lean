import GoldenFiles.Config.Validation
import GoldenFiles.Proofs.FileSystem.Entries
import GoldenFiles.Proofs.Path.Parents

/-!
# Walking through directories only

`walkWith` does everything at once: it goes through directories, it follows
links, and it tells an absent last name from an absent one on the way. Three
facts take it apart. It asks a file system nothing but `entry?`, so file systems
that agree are walked alike. It does not notice dots, as long as it ends at a
directory. And without links a walk is a walk through directories, `enter`,
followed by one look at the last name, `arrive`.

`enter` in turn succeeds just if every place on its way is a directory. The
places are `trail`, which does not depend on the file system at all, and so is
the place where it ends, `destination`.
-/

namespace GoldenFiles.FileSystem

/-! ## File systems that agree -/

theorem walkWith_congr {fs gs : FileSystem} (h : fs.Agrees gs) (follow : Bool)
    {via via' : Location → List Name → Except Errno Found} (hvia : via = via') (dir : Location)
    (names : List Name) : walkWith fs follow via dir names = walkWith gs follow via' dir names := by
  subst hvia
  induction names generalizing dir with
  | nil => rfl
  | cons name rest ih =>
      rw [walkWith, walkWith, h.entry?_eq, ih dir, ih dir.tail]
      split
      · rfl
      · split
        · rfl
        · split
          · rfl
          · split <;> first | rfl | exact ih _

theorem walk_congr {fs gs : FileSystem} (h : fs.Agrees gs) (follow : Bool) (links : Nat) :
    fs.walk follow links = gs.walk follow links := by
  induction links with
  | zero => funext dir names; exact walkWith_congr h follow rfl dir names
  | succ links ih => funext dir names; exact walkWith_congr h follow ih dir names

theorem find_congr {fs gs : FileSystem} (h : fs.Agrees gs) (follow : Bool) (p : Path) :
    fs.find follow p = gs.find follow p := by
  unfold find
  rw [walk_congr h, h.here_eq]

theorem stat_congr {fs gs : FileSystem} (h : fs.Agrees gs) (p : Path) :
    fs.stat p = gs.stat p := by
  unfold stat
  rw [find_congr h]

/-! ## Dots -/

/-- A piece that a walk takes a step for. -/
def isStep (name : Name) : Bool := name ≠ Path.dot

/-- A walk that ends at a directory, for the induction on the links of it. -/
def ReachesAlike (via : Location → List Name → Except Errno Found) : Prop :=
  ∀ dir place names names', names.filter isStep = names'.filter isStep →
    via dir names = .ok (.entry place .directory) → via dir names' = .ok (.entry place .directory)

theorem walkWith_filter {fs : FileSystem} {via : Location → List Name → Except Errno Found}
    (hvia : ReachesAlike via) (dir place : Location) (names : List Name) :
    walkWith fs true via dir names = .ok (.entry place .directory) ↔
      walkWith fs true via dir (names.filter isStep) = .ok (.entry place .directory) := by
  induction names generalizing dir with
  | nil => rfl
  | cons name rest ih =>
      by_cases hdot : name = Path.dot
      · rw [walkWith, if_pos hdot, List.filter_cons_of_neg (by simp [isStep, hdot])]
        exact ih dir
      · rw [List.filter_cons_of_pos (by simp [isStep, hdot]), walkWith, walkWith, if_neg hdot,
          if_neg hdot]
        split
        · exact ih dir.tail
        · split
          · simp
          · cases fs.entry? (name :: dir) with
            | none => constructor <;> intro h <;> simp only [] at h <;> split at h <;> cases h
            | some e =>
                cases e with
                | directory => exact ih (name :: dir)
                | file content executable =>
                    constructor <;> intro h <;> simp only [] at h <;> split at h <;> cases h
                | link target =>
                    simp only [Bool.true_eq_false, and_false, if_false]
                    constructor <;> refine hvia _ _ _ _ ?_ <;>
                      simp [List.filter_append, List.filter_filter]

/-- The dots in a path do not matter to a walk that ends at a directory. -/
theorem walk_reachesAlike (fs : FileSystem) (links : Nat) : ReachesAlike (fs.walk true links) := by
  have hstep (via : Location → List Name → Except Errno Found) (hvia : ReachesAlike via) :
      ReachesAlike (walkWith fs true via) := by
    intro dir place names names' hn h
    rw [walkWith_filter hvia, ← hn, ← walkWith_filter hvia]
    exact h
  induction links with
  | zero => exact hstep _ fun _ _ _ _ _ h => by cases h
  | succ links ih => exact hstep _ ih

theorem steps_filter (p : Path) : (steps p).filter isStep = p.names := by
  unfold steps Path.names
  rw [List.filter_append, List.filter_filter]
  have htail : (if endsInSlash p then [Path.dot] else []).filter isStep = [] := by
    split <;> simp [isStep]
  rw [htail, List.append_nil]
  refine List.filter_congr fun piece _ => ?_
  by_cases h : piece = [] <;> by_cases hd : piece = Path.dot <;>
    simp [isStep, Path.isIgnored, h, hd]

theorem stat_eq_ok_iff (fs : FileSystem) (p : Path) (place : Location) (e : Entry) :
    fs.stat p = .ok (place, e) ↔ fs.find true p = .ok (.entry place e) := by
  unfold stat
  split
  · next h => rw [h]; simp
  · next h => rw [h]; simp
  · next h => rw [h]; simp

theorem canonical?_of_stat {fs : FileSystem} {p : Path} {place : Location} {e : Entry}
    (h : fs.stat p = .ok (place, e)) : fs.canonical? p = some place := by
  rw [stat_eq_ok_iff, find] at h
  split at h
  · cases h
  · next hne =>
      split at h
      · cases h
      · rw [canonical?, if_neg hne, h]

/-- Paths with the same components stand for one place if one of them names a
directory. -/
theorem canonical?_of_same {fs : FileSystem} {p q : Path} (same : p.Same q) (hq : q.bytes ≠ [])
    {place : Location} (h : fs.stat p = .ok (place, .directory)) :
    fs.canonical? q = some place := by
  obtain ⟨habs, hnames⟩ := same.start_and_names
  rw [stat_eq_ok_iff, find] at h
  split at h
  · cases h
  · split at h
    · cases h
    · have hstart : start fs.here q = start fs.here p := by rw [start, start, habs]
      have hwalk := walk_reachesAlike fs maxLinks _ _ _ (steps q)
        (by rw [steps_filter, steps_filter, hnames]) h
      rw [canonical?, if_neg hq, hstart, hwalk]

/-! ## Directories on the way, and what is at the end -/

/-- Walks along names that all have to be directories. -/
def enter (fs : FileSystem) : Location → List Name → Except Errno Location
  | dir, [] => .ok dir
  | dir, name :: rest =>
      if name = Path.dot then enter fs dir rest
      else if name = Path.dotDot then enter fs dir.tail rest
      else if maxNameLength < name.length then .error .nameTooLong
      else
        match fs.entry? (name :: dir) with
        | none => .error .noEntry
        | some .directory => enter fs (name :: dir) rest
        | some (.file ..) => .error .notDirectory
        | some (.link _) => .error .tooManyLinks

/-- Looks at one name in a directory. -/
def arrive (fs : FileSystem) (dir : Location) (name : Name) : Except Errno Found :=
  if name = Path.dot then .ok (.entry dir .directory)
  else if name = Path.dotDot then .ok (.entry dir.tail .directory)
  else if maxNameLength < name.length then .error .nameTooLong
  else
    match fs.entry? (name :: dir) with
    | none => .ok (.absent dir name)
    | some e => .ok (.entry (name :: dir) e)

/-- The places that a walk looks at, in order. -/
def trail : Location → List Name → List Location
  | _, [] => []
  | dir, name :: rest =>
      if name = Path.dot then trail dir rest
      else if name = Path.dotDot then trail dir.tail rest
      else (name :: dir) :: trail (name :: dir) rest

/-- The place where a walk through directories ends. -/
def destination : Location → List Name → Location
  | dir, [] => dir
  | dir, name :: rest =>
      if name = Path.dot then destination dir rest
      else if name = Path.dotDot then destination dir.tail rest
      else destination (name :: dir) rest

theorem walkWith_concat {fs : FileSystem} (free : fs.LinkFree) (follow : Bool)
    (via : Location → List Name → Except Errno Found) (dir : Location) (names : List Name)
    (name : Name) : walkWith fs follow via dir (names ++ [name]) =
      (fs.enter dir names).bind fun d => fs.arrive d name := by
  induction names generalizing dir with
  | nil =>
      rw [List.nil_append, walkWith, enter, Except.bind, arrive]
      split
      · rw [walkWith]
      · split
        · rw [walkWith]
        · split
          · rfl
          · cases he : fs.entry? (name :: dir) with
            | none => simp
            | some e =>
                cases e with
                | directory => simp only [walkWith]
                | file content executable => simp
                | link target => exact absurd he (free _ target)
  | cons first rest ih =>
      have hne : rest ++ [name] ≠ [] := by simp
      rw [List.cons_append, walkWith, enter]
      split
      · exact ih dir
      · split
        · exact ih dir.tail
        · split
          · rfl
          · cases he : fs.entry? (first :: dir) with
            | none => simp only [Except.bind]
            | some e =>
                cases e with
                | directory => exact ih (first :: dir)
                | file content executable => simp only [Except.bind]
                | link target => exact absurd he (free _ target)

/-- Without links, a walk enters one directory after the other and looks at the
last name. -/
theorem walk_concat {fs : FileSystem} (free : fs.LinkFree) (follow : Bool) (links : Nat)
    (dir : Location) (names : List Name) (name : Name) :
    fs.walk follow links dir (names ++ [name]) =
      (fs.enter dir names).bind fun d => fs.arrive d name := by
  cases links <;> exact walkWith_concat free _ _ _ _ _

theorem enter_filter (fs : FileSystem) (dir : Location) (names : List Name) :
    fs.enter dir (names.filter isStep) = fs.enter dir names := by
  induction names generalizing dir with
  | nil => rfl
  | cons name rest ih =>
      by_cases hdot : name = Path.dot
      · rw [List.filter_cons_of_neg (by simp [isStep, hdot]), enter, if_pos hdot, ih]
      · rw [List.filter_cons_of_pos (by simp [isStep, hdot]), enter, enter, ih, ih]
        split
        · rfl
        · split
          · rfl
          · split
            · rfl
            · split <;> first | rfl | exact ih _

/-- The dots and slashes of a path do not matter to whoever enters directories. -/
theorem enter_steps (fs : FileSystem) (dir : Location) (p : Path) :
    fs.enter dir (steps p) = fs.enter dir p.names := by
  rw [← enter_filter, steps_filter]

theorem enter_pieces (fs : FileSystem) (dir : Location) (pieces : List Name) :
    fs.enter dir (pieces.filter (· ≠ [])) =
      fs.enter dir (pieces.filter fun piece => !Path.isIgnored piece) := by
  rw [← enter_filter, List.filter_filter]
  congr 1
  refine List.filter_congr fun piece _ => ?_
  by_cases h : piece = [] <;> by_cases hd : piece = Path.dot <;>
    simp [isStep, Path.isIgnored, h, hd]

theorem trail_append (dir : Location) (names others : List Name) :
    trail dir (names ++ others) = trail dir names ++ trail (destination dir names) others := by
  induction names generalizing dir with
  | nil => rfl
  | cons name rest ih =>
      simp only [List.cons_append, trail, destination, ih]
      split
      · rfl
      · split <;> rfl

/-- A walk through directories succeeds just if all places on it are directories. -/
theorem enter_eq_ok_iff {fs : FileSystem} (wf : fs.WellFormed) (dir place : Location)
    (names : List Name) : fs.enter dir names = .ok place ↔
      place = destination dir names ∧ ∀ loc ∈ trail dir names, fs.entry? loc = some .directory := by
  induction names generalizing dir with
  | nil => simp [enter, destination, trail, eq_comm]
  | cons name rest ih =>
      rw [enter, destination, trail]
      split
      · exact ih dir
      · split
        · exact ih dir.tail
        · split
          · next hlong =>
              -- a name that is too long is nowhere in a file system
              refine iff_of_false (by simp) ?_
              rintro ⟨-, h⟩
              have := (wf.entryName (h (name :: dir) List.mem_cons_self)).short
              omega
          · cases he : fs.entry? (name :: dir) with
            | none => simp [he]
            | some e => cases e <;> simp [he, ih]

theorem suffix_destination {dir : Location} {names : List Name} (h : Path.dotDot ∉ names) :
    dir <:+ destination dir names := by
  induction names generalizing dir with
  | nil => exact List.suffix_rfl
  | cons name rest ih =>
      obtain ⟨hname, hrest⟩ := not_or.mp (mt List.mem_cons.mpr h)
      rw [destination]
      split
      · exact ih hrest
      · rw [if_neg (Ne.symm hname)]
        exact (List.suffix_cons name dir).trans (ih hrest)

/-- Dots do not lead anywhere. -/
theorem destination_filter (dir : Location) (names : List Name) :
    destination dir (names.filter isStep) = destination dir names := by
  induction names generalizing dir with
  | nil => rfl
  | cons name rest ih =>
      by_cases hdot : name = Path.dot
      · rw [List.filter_cons_of_neg (by simp [isStep, hdot]), destination, if_pos hdot, ih]
      · rw [List.filter_cons_of_pos (by simp [isStep, hdot]), destination, destination, ih, ih, ih]

theorem destination_of_plain (dir : Location) {names : List Name}
    (h : ∀ name ∈ names, name ≠ Path.dot ∧ name ≠ Path.dotDot) :
    destination dir names = names.reverse ++ dir := by
  induction names generalizing dir with
  | nil => rfl
  | cons name rest ih =>
      obtain ⟨⟨hdot, hup⟩, hrest⟩ := List.forall_mem_cons.mp h
      rw [destination, if_neg hdot, if_neg hup, ih _ hrest, List.reverse_cons, List.append_assoc]
      rfl

theorem eq_destination_of_walkWith {fs : FileSystem} (free : fs.LinkFree) {follow : Bool}
    {via : Location → List Name → Except Errno Found} {dir place : Location} {names : List Name}
    {e : Entry} (h : walkWith fs follow via dir names = .ok (.entry place e)) :
    place = destination dir names := by
  induction names generalizing dir with
  | nil => exact (Found.entry.inj (Except.ok.inj h)).1.symm
  | cons name rest ih =>
      rw [walkWith] at h
      rw [destination]
      split at h
      · next hdot => rw [if_pos hdot]; exact ih h
      · next hdot =>
          rw [if_neg hdot]
          split at h
          · next hup => rw [if_pos hup]; exact ih h
          · next hup =>
              rw [if_neg hup]
              split at h
              · cases h
              · split at h
                · split at h <;> cases h
                · exact ih h
                · split at h
                  · next hrest =>
                      rw [hrest]
                      exact (Found.entry.inj (Except.ok.inj h)).1.symm
                  · cases h
                · next target hlink => exact absurd hlink (free _ target)

/-- Without links, what a walk finds is where its names say, whatever is there. -/
theorem eq_destination_of_walk {fs : FileSystem} (free : fs.LinkFree) {follow : Bool} {links : Nat}
    {dir place : Location} {names : List Name} {e : Entry}
    (h : fs.walk follow links dir names = .ok (.entry place e)) :
    place = destination dir names := by
  cases links <;> exact eq_destination_of_walkWith free h

/-- A walk that never goes up and ends at a directory has gone through directories. -/
theorem directory_of_mem_trail {fs : FileSystem} (wf : fs.WellFormed) {dir : Location}
    {names : List Name} (h : Path.dotDot ∉ names)
    (hd : fs.entry? (destination dir names) = some .directory) :
    ∀ loc ∈ trail dir names, fs.entry? loc = some .directory := by
  induction names generalizing dir with
  | nil => simp [trail]
  | cons name rest ih =>
      obtain ⟨hname, hrest⟩ := not_or.mp (mt List.mem_cons.mpr h)
      rw [destination] at hd
      rw [trail]
      split
      · next hdot => exact ih hrest (by rwa [if_pos hdot] at hd)
      · next hdot =>
          rw [if_neg hdot, if_neg (Ne.symm hname)] at hd
          rw [if_neg (Ne.symm hname)]
          intro loc hloc
          rcases List.mem_cons.mp hloc with rfl | hloc
          · have hbelow := @suffix_destination (name :: dir) _ hrest
            by_cases heq : name :: dir = destination (name :: dir) rest
            · rw [heq]; exact hd
            · exact wf.directory_of_suffix hd hbelow heq
          · exact ih hrest hd loc hloc

/-- Where nothing but absence is in the way, absence is what a walk fails with. -/
theorem enter_of_no_files {fs : FileSystem} {dir : Location} {names : List Name}
    (h : ∀ loc ∈ trail dir names, fs.entry? loc = some .directory ∨
      fs.entry? loc = none ∧ ∀ name ∈ loc.head?, name.length ≤ maxNameLength)
    (wf : fs.WellFormed) :
    fs.enter dir names = .ok (destination dir names) ∨ fs.enter dir names = .error .noEntry := by
  induction names generalizing dir with
  | nil => exact .inl rfl
  | cons name rest ih =>
      rw [trail] at h
      rw [enter, destination]
      split
      · next hdot => rw [if_pos hdot] at h; exact ih h
      · next hdot =>
          rw [if_neg hdot] at h
          split
          · next hup => rw [if_pos hup] at h; exact ih h
          · next hup =>
              rw [if_neg hup] at h
              have hrest := ih fun loc hloc => h loc (List.mem_cons_of_mem _ hloc)
              rcases h (name :: dir) List.mem_cons_self with hd | ⟨hnone, hshort⟩
              · rw [if_neg (Nat.not_lt.mpr (wf.entryName hd).short), hd]
                exact hrest
              · rw [if_neg (Nat.not_lt.mpr (hshort name rfl)), hnone]
                exact .inr rfl

/-! ## Paths that end in a name -/

theorem endsInSlash_of_last {p : Path} {init : List Name} {last : Name}
    (hp : p.pieces = init ++ [last]) (hl : last ≠ []) : endsInSlash p = false := by
  rw [endsInSlash, decide_eq_false_iff_not, Separated.getLast?_eq_sep_iff]
  rintro ⟨other, -, ho⟩
  rw [show Separated.split Path.slash p.bytes = p.pieces from rfl, hp] at ho
  exact hl (by simpa using List.append_inj_right' ho rfl)

theorem bytes_ne_nil_of_last {p : Path} {init : List Name} {last : Name}
    (hp : p.pieces = init ++ [last]) (hl : last ≠ []) : p.bytes ≠ [] := by
  intro hb
  rw [Path.pieces, hb] at hp
  exact hl (by simpa using (List.append_inj_right' (hp.symm.trans (List.nil_append [[]]).symm) rfl))

/-- What a path that ends in a name names is found by entering the directories
before the name and looking at it. -/
theorem find_of_last {fs : FileSystem} (free : fs.LinkFree) (follow : Bool) {p : Path}
    {init : List Name} {last : Name} (hp : p.pieces = init ++ [last])
    (hl : Path.isIgnored last = false) :
    fs.find follow p =
      if maxPathLength ≤ p.bytes.length then .error .nameTooLong
      else (fs.enter (start fs.here p) (init.filter fun piece => !Path.isIgnored piece)).bind
        fun d => fs.arrive d last := by
  have hne : last ≠ [] := by rintro rfl; simp [Path.isIgnored] at hl
  have hsteps : steps p = init.filter (· ≠ []) ++ [last] := by
    rw [steps, endsInSlash_of_last hp hne, hp, List.filter_append]
    simp [hne]
  rw [find, if_neg (bytes_ne_nil_of_last hp hne), hsteps, walk_concat free, enter_pieces]

theorem find_join {fs : FileSystem} (free : fs.LinkFree) (follow : Bool) {p : Path} {name : Name}
    (h : Path.NormalName name) :
    fs.find follow (p.join ⟨name⟩) =
      if maxPathLength ≤ (p.join ⟨name⟩).bytes.length then .error .nameTooLong
      else (fs.enter (start fs.here p) p.names).bind fun d => fs.arrive d name := by
  rw [find_of_last free follow (Path.pieces_join h) h.not_ignored, Path.names_eq_filter_body, start,
    start, Path.isAbsolute_join h]

theorem find_cut {fs : FileSystem} (free : fs.LinkFree) (follow : Bool) {p parent : Path}
    {above : List Name} {last : Name} (h : Path.Cut p parent above last) :
    fs.find follow p =
      if maxPathLength ≤ p.bytes.length then .error .nameTooLong
      else (fs.enter (start fs.here p) above).bind fun d => fs.arrive d last := by
  obtain ⟨init, hp⟩ := h.last_piece
  have hn := h.names_eq
  rw [Path.names, hp, List.filter_append, List.filter_cons_of_pos (by simp [h.last_counts])] at hn
  rw [find_of_last free follow hp h.last_counts, (List.append_inj' hn rfl).1]

end GoldenFiles.FileSystem
