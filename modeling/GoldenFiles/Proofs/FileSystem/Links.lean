import GoldenFiles.Proofs.FileSystem.Walk

/-!
# Walking through links

A walk goes on behind a link with one link less to follow and with more names than
before, so what is proved of walks is proved by induction on the links first and on
the names second. `walk_induction` states this once. With it a walk is taken apart
where its names are: `onward` says what the first names leave for the others to do,
whatever links they lead through.

The other half is time. `Keeps` is all that a run can do to a file system as far as
walks are concerned: nothing that is there goes away or becomes something else, only
files get another content. Then every walk that finds an entry finds it again, and
finds it at the same place.
-/

namespace GoldenFiles

/-- An entry without the content of a file. -/
def Entry.shape : Entry → Entry
  | .file _ executable => .file [] executable
  | e => e

namespace FileSystem

/-! ## One step of a walk -/

/-- Walks along names behind a link. -/
def behind (fs : FileSystem) (follow : Bool) : Nat → Location → List Name → Except Errno Found
  | 0 => fun _ _ => .error .tooManyLinks
  | links + 1 => fs.walk follow links

section Walk

variable {fs gs : FileSystem} {follow : Bool} {links : Nat} {dir place : Location} {name : Name}
  {rest names : List Name} {e : Entry}

theorem walk_eq (fs : FileSystem) (follow : Bool) (links : Nat) :
    fs.walk follow links = walkWith fs follow (fs.behind follow links) := by
  cases links <;> rfl

theorem walk_nil (fs : FileSystem) (follow : Bool) (links : Nat) (dir : Location) :
    fs.walk follow links dir [] = .ok (.entry dir .directory) := by
  rw [walk_eq, walkWith]

theorem walk_dot (fs : FileSystem) (follow : Bool) (links : Nat) (dir : Location)
    (rest : List Name) : fs.walk follow links dir (Path.dot :: rest) = fs.walk follow links dir rest := by
  rw [walk_eq, walkWith, if_pos rfl]

theorem walk_up (fs : FileSystem) (follow : Bool) (links : Nat) (dir : Location)
    (rest : List Name) :
    fs.walk follow links dir (Path.dotDot :: rest) = fs.walk follow links dir.tail rest := by
  rw [walk_eq, walkWith, if_neg (by decide), if_pos rfl]

theorem walk_name (hdot : name ≠ Path.dot) (hup : name ≠ Path.dotDot) :
    fs.walk follow links dir (name :: rest) =
      if maxNameLength < name.length then .error .nameTooLong
      else
        match fs.entry? (name :: dir) with
        | none => if rest = [] then .ok (.absent dir name) else .error .noEntry
        | some .directory => fs.walk follow links (name :: dir) rest
        | some (.file content executable) =>
            if rest = [] then .ok (.entry (name :: dir) (.file content executable))
            else .error .notDirectory
        | some (.link target) =>
            if rest = [] ∧ follow = false then .ok (.entry (name :: dir) (.link target))
            else fs.behind follow links (start dir target) (steps target ++ rest) := by
  rw [walk_eq]
  exact (if_neg hdot).trans (if_neg hup)

/-- What holds of every walk if it holds of each that is a step further. -/
@[elab_as_elim]
theorem walk_induction {motive : Nat → Location → List Name → Prop}
    (nil : ∀ links dir, motive links dir [])
    (dot : ∀ links dir rest, motive links dir rest → motive links dir (Path.dot :: rest))
    (up : ∀ links dir rest, motive links dir.tail rest → motive links dir (Path.dotDot :: rest))
    (name : ∀ links dir name rest, name ≠ Path.dot → name ≠ Path.dotDot →
      motive links (name :: dir) rest →
      (∀ left target, links = left + 1 → motive left (start dir target) (steps target ++ rest)) →
      motive links dir (name :: rest))
    (links : Nat) (dir : Location) (names : List Name) : motive links dir names := by
  have hnames (links : Nat)
      (hbehind : ∀ left, links = left + 1 → ∀ dir names, motive left dir names) :
      ∀ dir names, motive links dir names := by
    intro dir names
    induction names generalizing dir with
    | nil => exact nil links dir
    | cons first rest ih =>
        by_cases hdot : first = Path.dot
        · subst hdot
          exact dot links dir rest (ih dir)
        · by_cases hup : first = Path.dotDot
          · subst hup
            exact up links dir rest (ih dir.tail)
          · exact name links dir first rest hdot hup (ih _) fun left _ hleft => hbehind left hleft _ _
  induction links generalizing dir names with
  | zero => exact hnames 0 (fun _ h => by cases h) dir names
  | succ links ih =>
      exact hnames (links + 1) (fun left h dir names => Nat.succ.inj h ▸ ih dir names) dir names

/-! ## A walk after another one -/

/-- What a walk along `names` leaves for one that goes on along `rest`. -/
inductive Onward (fs : FileSystem) (follow : Bool) (links : Nat) (dir : Location)
    (names rest : List Name) : Prop where
  | through (place : Location) (left : Nat) (le : left ≤ links)
      (first : fs.walk true links dir names = .ok (.entry place .directory))
      (onward : fs.walk follow links dir (names ++ rest) = fs.walk follow left place rest)
  | missing (parent : Location) (name : Name)
      (first : fs.walk true links dir names = .ok (.absent parent name))
      (onward : fs.walk follow links dir (names ++ rest) = .error .noEntry)
  | blocked (place : Location) (content : Bytes) (executable : Bool)
      (first : fs.walk true links dir names = .ok (.entry place (.file content executable)))
      (onward : fs.walk follow links dir (names ++ rest) = .error .notDirectory)
  | failed (e : Errno) (first : fs.walk true links dir names = .error e)
      (onward : fs.walk follow links dir (names ++ rest) = .error e)

/-- A step that both walks take alike. -/
theorem Onward.of_eq {dir' : Location} {names' : List Name} {links' : Nat}
    (h : Onward fs follow links' dir' names' rest) (hle : links' ≤ links)
    (hfirst : fs.walk true links dir names = fs.walk true links' dir' names')
    (honward : fs.walk follow links dir (names ++ rest) =
      fs.walk follow links' dir' (names' ++ rest)) : Onward fs follow links dir names rest := by
  cases h with
  | through place left le first onward =>
      exact .through place left (le.trans hle) (hfirst.trans first) (honward.trans onward)
  | missing parent name first onward =>
      exact .missing parent name (hfirst.trans first) (honward.trans onward)
  | blocked place content executable first onward =>
      exact .blocked place content executable (hfirst.trans first) (honward.trans onward)
  | failed e first onward => exact .failed e (hfirst.trans first) (honward.trans onward)

theorem onward (fs : FileSystem) (follow : Bool) (links : Nat) (dir : Location) (names : List Name)
    (h : rest ≠ []) : Onward fs follow links dir names rest := by
  induction links, dir, names using walk_induction with
  | nil links dir => exact .through dir links (Nat.le_refl _) (walk_nil ..) rfl
  | dot links dir names ih => exact ih.of_eq (Nat.le_refl _) (walk_dot ..) (walk_dot ..)
  | up links dir names ih => exact ih.of_eq (Nat.le_refl _) (walk_up ..) (walk_up ..)
  | name links dir name names hdot hup hinto hbehind =>
      have hrest : names ++ rest ≠ [] := by simp [h]
      by_cases hlong : maxNameLength < name.length
      · exact .failed .nameTooLong (by rw [walk_name hdot hup, if_pos hlong])
          (by rw [List.cons_append, walk_name hdot hup, if_pos hlong])
      cases he : fs.entry? (name :: dir) with
      | none =>
          have honward : fs.walk follow links dir (name :: names ++ rest) = .error .noEntry := by
            rw [List.cons_append, walk_name hdot hup, if_neg hlong, he]
            simp only [if_neg hrest]
          by_cases hnames : names = []
          · refine .missing dir name ?_ honward
            rw [walk_name hdot hup, if_neg hlong, he]
            simp only [if_pos hnames]
          · refine .failed .noEntry ?_ honward
            rw [walk_name hdot hup, if_neg hlong, he]
            simp only [if_neg hnames]
      | some e =>
          cases e with
          | directory =>
              refine hinto.of_eq (Nat.le_refl _) ?_ ?_
              · rw [walk_name hdot hup, if_neg hlong, he]
              · rw [List.cons_append, walk_name hdot hup, if_neg hlong, he]
          | file content executable =>
              have honward : fs.walk follow links dir (name :: names ++ rest) =
                  .error .notDirectory := by
                rw [List.cons_append, walk_name hdot hup, if_neg hlong, he]
                simp only [if_neg hrest]
              by_cases hnames : names = []
              · refine .blocked (name :: dir) content executable ?_ honward
                rw [walk_name hdot hup, if_neg hlong, he]
                simp only [if_pos hnames]
              · refine .failed .notDirectory ?_ honward
                rw [walk_name hdot hup, if_neg hlong, he]
                simp only [if_neg hnames]
          | link target =>
              have hfirst : fs.walk true links dir (name :: names) =
                  fs.behind true links (start dir target) (steps target ++ names) := by
                rw [walk_name hdot hup, if_neg hlong, he]
                simp
              have honward : fs.walk follow links dir (name :: names ++ rest) =
                  fs.behind follow links (start dir target) (steps target ++ names ++ rest) := by
                rw [List.cons_append, walk_name hdot hup, if_neg hlong, he, List.append_assoc]
                simp only [hrest, false_and, if_false]
              cases links with
              | zero => exact .failed .tooManyLinks hfirst honward
              | succ left => exact (hbehind left target rfl).of_eq (Nat.le_succ left) hfirst honward

/-- From the directory that some names lead to the walk goes on with the links it has left. -/
theorem walk_through (leads : fs.walk true links dir names = .ok (.entry place .directory))
    (follow : Bool) (h : rest ≠ []) : ∃ left ≤ links,
      fs.walk follow links dir (names ++ rest) = fs.walk follow left place rest := by
  cases onward fs follow links dir names h with
  | missing parent name first onward => rw [leads] at first; cases first
  | blocked d content executable first onward => rw [leads] at first; cases first
  | failed e first onward => rw [leads] at first; cases first
  | through d left le first onward =>
      obtain rfl := (Found.entry.inj (Except.ok.inj (leads.symm.trans first))).1
      exact ⟨left, le, onward⟩

/-- A walk that finds something has been in a directory before each of its names. -/
theorem exists_through {found : Found} (h : rest ≠ [])
    (hw : fs.walk follow links dir (names ++ rest) = .ok found) :
    ∃ place left, left ≤ links ∧ fs.walk true links dir names = .ok (.entry place .directory) ∧
      fs.walk follow left place rest = .ok found := by
  cases onward fs follow links dir names h with
  | missing parent name first onward => rw [onward] at hw; cases hw
  | blocked d content executable first onward => rw [onward] at hw; cases hw
  | failed e first onward => rw [onward] at hw; cases hw
  | through place left le first onward => exact ⟨place, left, le, first, onward ▸ hw⟩

/-- What a walk has found with some links it finds with more. -/
theorem walk_mono {more : Nat} {found : Found} (hle : links ≤ more)
    (h : fs.walk follow links dir names = .ok found) : fs.walk follow more dir names = .ok found := by
  induction links, dir, names using walk_induction generalizing more with
  | nil links dir => rw [walk_nil] at h ⊢; exact h
  | dot links dir rest ih => rw [walk_dot] at h ⊢; exact ih hle h
  | up links dir rest ih => rw [walk_up] at h ⊢; exact ih hle h
  | name links dir name rest hdot hup hinto hbehind =>
      rw [walk_name hdot hup] at h ⊢
      split at h
      · cases h
      · next hlong =>
          rw [if_neg hlong]
          cases he : fs.entry? (name :: dir) with
          | none => rw [he] at h; exact h
          | some e =>
              rw [he] at h
              cases e with
              | directory => exact hinto hle h
              | file content executable => exact h
              | link target =>
                  simp only [] at h ⊢
                  split at h
                  · next hlast => rw [if_pos hlast]; exact h
                  · next hlast =>
                      rw [if_neg hlast]
                      cases links with
                      | zero => cases h
                      | succ left =>
                          obtain ⟨more, rfl⟩ : ∃ m, more = m + 1 := ⟨more - 1, by omega⟩
                          exact hbehind left target rfl (Nat.le_of_succ_le_succ hle) h

theorem walk_dots {dots : List Name} (h : ∀ piece ∈ dots, ¬isStep piece = true) (names : List Name) :
    fs.walk follow links dir (dots ++ names) = fs.walk follow links dir names := by
  induction dots with
  | nil => rfl
  | cons piece dots ih =>
      obtain ⟨hpiece, hdots⟩ := List.forall_mem_cons.mp h
      have hdot : piece = Path.dot := by simpa [isStep] using hpiece
      rw [List.cons_append, hdot, walk_dot, ih hdots]

/-- Dots before the last name do not matter. -/
theorem walk_concat_of_filter_eq {names' : List Name} (last : Name)
    (h : names'.filter isStep = names.filter isStep) :
    fs.walk follow links dir (names' ++ [last]) = fs.walk follow links dir (names ++ [last]) := by
  induction links, dir, names using walk_induction generalizing names' with
  | nil links dir => rw [walk_dots (List.filter_eq_nil_iff.mp h), List.nil_append]
  | dot links dir rest ih => rw [List.cons_append, walk_dot, ih h]
  | up links dir rest ih =>
      rw [List.filter_cons_of_pos (by decide)] at h
      obtain ⟨dots, rest', rfl, hdots, -, hrest⟩ := List.filter_eq_cons_iff.mp h
      rw [List.append_assoc, walk_dots hdots, List.cons_append, List.cons_append, walk_up, walk_up,
        ih hrest]
  | name links dir name rest hdot hup hinto hbehind =>
      rw [List.filter_cons_of_pos (by simpa [isStep] using hdot)] at h
      obtain ⟨dots, rest', rfl, hdots, -, hrest⟩ := List.filter_eq_cons_iff.mp h
      have hne (names : List Name) : names ++ [last] ≠ [] := by simp
      rw [List.append_assoc, walk_dots hdots, List.cons_append, List.cons_append,
        walk_name hdot hup, walk_name hdot hup, hinto hrest]
      split
      · rfl
      · cases fs.entry? (name :: dir) with
        | none => simp only [hne, if_false]
        | some e =>
            cases e with
            | directory => rfl
            | file content executable => simp only [hne, if_false]
            | link target =>
                simp only [hne, false_and, if_false]
                cases links with
                | zero => rfl
                | succ left =>
                    have hsteps : (steps target ++ rest').filter isStep =
                        (steps target ++ rest).filter isStep := by
                      rw [List.filter_append, List.filter_append, hrest]
                    have hleft := hbehind left target rfl hsteps
                    rw [behind, ← List.append_assoc, ← List.append_assoc]
                    exact hleft

/-! ## What stays where it is -/

/-- What a walk has found is there, or missing, where it says. -/
def Holds (fs : FileSystem) : Found → Prop
  | .entry place e => e = .directory ∨ fs.entry? place = some e
  | .absent dir name => fs.entry? (name :: dir) = none

theorem holds_of_walk {found : Found} (h : fs.walk follow links dir names = .ok found) :
    fs.Holds found := by
  induction links, dir, names using walk_induction with
  | nil links dir =>
      rw [walk_nil] at h
      obtain rfl := Except.ok.inj h
      exact .inl rfl
  | dot links dir rest ih => rw [walk_dot] at h; exact ih h
  | up links dir rest ih => rw [walk_up] at h; exact ih h
  | name links dir name rest hdot hup hinto hbehind =>
      rw [walk_name hdot hup] at h
      split at h
      · cases h
      · split at h
        · next hmissing =>
            split at h
            · obtain rfl := Except.ok.inj h
              exact hmissing
            · cases h
        · exact hinto h
        · next hfound =>
            split at h
            · obtain rfl := Except.ok.inj h
              exact .inr hfound
            · cases h
        · next hfound =>
            split at h
            · obtain rfl := Except.ok.inj h
              exact .inr hfound
            · cases links with
              | zero => cases h
              | succ left => exact hbehind left _ rfl h

theorem find_eq_ok_iff (fs : FileSystem) (follow : Bool) (p : Path) (found : Found) :
    fs.find follow p = .ok found ↔ p.bytes ≠ [] ∧ p.bytes.length < maxPathLength ∧
      fs.walk follow maxLinks (start fs.here p) (steps p) = .ok found := by
  rw [find]
  split
  · next hb => simp [hb]
  · next hb =>
      split
      · next hlen => simp [Nat.not_lt.mpr hlen]
      · next hlen => simp [hb, Nat.not_le.mp hlen]

theorem entry?_of_stat {p : Path} (h : fs.stat p = .ok (place, e)) (he : e ≠ .directory) :
    fs.entry? place = some e :=
  (holds_of_walk ((find_eq_ok_iff ..).mp ((stat_eq_ok_iff ..).mp h)).2.2).resolve_left he

/-- Nothing that is there goes away, and files stay files. -/
structure Keeps (fs gs : FileSystem) : Prop where
  here_eq : gs.here = fs.here
  kept : ∀ {loc e}, fs.entry? loc = some e → ∃ e', gs.entry? loc = some e' ∧ e'.shape = e.shape

theorem Keeps.refl (fs : FileSystem) : fs.Keeps fs := ⟨rfl, fun he => ⟨_, he, rfl⟩⟩

theorem Keeps.trans {hs : FileSystem} (h : fs.Keeps gs) (h' : gs.Keeps hs) : fs.Keeps hs := by
  refine ⟨h'.here_eq.trans h.here_eq, fun he => ?_⟩
  obtain ⟨e, he, hshape⟩ := h.kept he
  obtain ⟨e', he', hshape'⟩ := h'.kept he
  exact ⟨e', he', hshape'.trans hshape⟩

theorem Keeps.directory (h : fs.Keeps gs) {loc : Location} (hd : fs.entry? loc = some .directory) :
    gs.entry? loc = some .directory := by
  obtain ⟨e, he, hshape⟩ := h.kept hd
  cases e <;> first | exact he | cases hshape

theorem Keeps.link (h : fs.Keeps gs) {loc : Location} {target : Path}
    (hl : fs.entry? loc = some (.link target)) : gs.entry? loc = some (.link target) := by
  obtain ⟨e, he, hshape⟩ := h.kept hl
  cases e with
  | link other => rw [he]; exact congrArg some hshape
  | directory => cases hshape
  | file => cases hshape

theorem Keeps.file (h : fs.Keeps gs) {loc : Location} {content : Bytes} {executable : Bool}
    (hf : fs.entry? loc = some (.file content executable)) :
    ∃ other, gs.entry? loc = some (.file other executable) := by
  obtain ⟨e, he, hshape⟩ := h.kept hf
  cases e with
  | file other x => obtain ⟨-, rfl⟩ := Entry.file.inj hshape; exact ⟨other, he⟩
  | directory => cases hshape
  | link => cases hshape

/-- Setting an entry keeps what is there if it is another content at most. -/
theorem keeps_put {loc : Location} (hloc : loc ≠ [])
    (h : ∀ old, fs.entry? loc = some old → e.shape = old.shape) : fs.Keeps (fs.put loc e) := by
  refine ⟨here_put .., fun {l old} hold => ?_⟩
  rw [entry?_put fs hloc]
  split
  · next heq => exact ⟨e, rfl, h old (heq ▸ hold)⟩
  · exact ⟨old, hold, rfl⟩

/-- What a walk has found it finds again, at the same place. -/
theorem Keeps.walk (h : fs.Keeps gs) (hw : fs.walk follow links dir names = .ok (.entry place e)) :
    ∃ e', gs.walk follow links dir names = .ok (.entry place e') ∧ e'.shape = e.shape := by
  induction links, dir, names using walk_induction with
  | nil links dir => rw [walk_nil] at hw ⊢; exact ⟨e, hw, rfl⟩
  | dot links dir rest ih => rw [walk_dot] at hw ⊢; exact ih hw
  | up links dir rest ih => rw [walk_up] at hw ⊢; exact ih hw
  | name links dir name rest hdot hup hinto hbehind =>
      rw [walk_name hdot hup] at hw ⊢
      split at hw
      · cases hw
      · next hlong =>
          rw [if_neg hlong]
          split at hw
          · split at hw <;> cases hw
          · next he =>
              rw [h.directory he]
              exact hinto hw
          · next he =>
              obtain ⟨other, hother⟩ := h.file he
              rw [hother]
              split at hw
              · next hlast =>
                  obtain ⟨rfl, rfl⟩ := Found.entry.inj (Except.ok.inj hw)
                  exact ⟨_, if_pos hlast, rfl⟩
              · cases hw
          · next he =>
              rw [h.link he]
              simp only []
              split at hw
              · next hlast => rw [if_pos hlast]; exact ⟨e, hw, rfl⟩
              · next hlast =>
                  rw [if_neg hlast]
                  cases links with
                  | zero => cases hw
                  | succ left => exact hbehind left _ rfl hw

theorem Keeps.find {p : Path} (h : fs.Keeps gs) (hf : fs.find follow p = .ok (.entry place e)) :
    ∃ e', gs.find follow p = .ok (.entry place e') ∧ e'.shape = e.shape := by
  obtain ⟨hb, hlen, hw⟩ := (find_eq_ok_iff ..).mp hf
  obtain ⟨e', he', hshape⟩ := h.walk hw
  exact ⟨e', (find_eq_ok_iff ..).mpr ⟨hb, hlen, h.here_eq ▸ he'⟩, hshape⟩

/-- What a path names it names again. -/
theorem Keeps.stat {p : Path} (h : fs.Keeps gs) (hs : fs.stat p = .ok (place, e)) :
    ∃ e', gs.stat p = .ok (place, e') ∧ e'.shape = e.shape := by
  rw [stat_eq_ok_iff] at hs
  obtain ⟨e', he', hshape⟩ := h.find hs
  exact ⟨e', (stat_eq_ok_iff ..).mpr he', hshape⟩

/-- A file that a path names is named again with what is in it now. -/
theorem Keeps.stat_file {p : Path} {old content : Bytes} {executable x : Bool} (h : fs.Keeps gs)
    (hs : fs.stat p = .ok (place, .file old x))
    (hf : gs.entry? place = some (.file content executable)) :
    gs.stat p = .ok (place, .file content executable) := by
  obtain ⟨e, he, hshape⟩ := h.stat hs
  have hne : e ≠ .directory := by rintro rfl; cases hshape
  rw [he, Option.some.inj ((entry?_of_stat he hne).symm.trans hf)]

end Walk

end FileSystem

end GoldenFiles
