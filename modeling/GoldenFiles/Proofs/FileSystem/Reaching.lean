import GoldenFiles.Proofs.FileSystem.Links
import GoldenFiles.Proofs.FileSystem.Listing
import GoldenFiles.Proofs.FileSystem.Opening

/-!
# Opening through links

Whether links are on the way or not, a path that ends in a name is used in two steps:
what stands before the name leads to a directory, and there the name is looked at.
`Leads` is the first step, and what it leads to stays the same as long as nothing
that is there goes away. `createWith_join` puts the second one behind it, where opening
a file looks through the links that the name may be.

A file that is there is opened where it is (`create_of_stat`), and what has been opened
once is opened again (`create_again`).
-/

namespace GoldenFiles

namespace Path

/-- A path whose last piece is an ordinary component is one with a name appended. -/
theorem exists_join {p : Path} {init : List Name} {name : Name} (h : NormalName name)
    (hp : p.pieces = init ++ [name]) : ∃ q : Path, p = q.join ⟨name⟩ := by
  have hbytes : p.bytes = Separated.join slash (init ++ [name]) := by
    rw [← hp, pieces, Separated.join_split]
  have hsingle : Separated.join slash [name] = name := by simp [Separated.join, List.intercalate]
  obtain ⟨bytes⟩ := p
  subst hbytes
  by_cases hinit : init = []
  · refine ⟨⟨[]⟩, ?_⟩
    rw [join, h.relative, if_neg (by simp), if_pos (.inl rfl), hinit, List.nil_append, hsingle]
    rfl
  · refine ⟨⟨Separated.join slash init ++ [slash]⟩, ?_⟩
    rw [join, h.relative, if_neg (by simp), if_pos (.inr List.getLast?_concat),
      Separated.join_append slash hinit (by simp), hsingle, List.append_assoc]
    rfl

end Path

namespace FileSystem

section

variable {fs gs : FileSystem} {follow : Bool} {links : Nat} {here origin dir place loc : Location}
  {p q parent : Path} {name last : Name} {names above : List Name} {e : Entry}

/-! ## The last name of a walk -/

theorem walk_last (hdot : name ≠ Path.dot) (hup : name ≠ Path.dotDot) :
    fs.walk follow links dir [name] =
      if maxNameLength < name.length then .error .nameTooLong
      else
        match fs.entry? (name :: dir) with
        | none => .ok (.absent dir name)
        | some (.link target) =>
            if follow = false then .ok (.entry (name :: dir) (.link target))
            else fs.behind follow links (start dir target) (steps target)
        | some e => .ok (.entry (name :: dir) e) := by
  rw [walk_name hdot hup]
  split
  · rfl
  · cases fs.entry? (name :: dir) with
    | none => rfl
    | some e =>
        cases e with
        | directory => simp only [walk_nil]
        | file content executable => rfl
        | link target => simp only [true_and, List.append_nil]

/-- Not following a link at the end makes no difference but that the link is found. -/
theorem walk_false (fs : FileSystem) (links : Nat) (dir : Location) (names : List Name) :
    fs.walk false links dir names = fs.walk true links dir names ∨
      ∃ place target, fs.walk false links dir names = .ok (.entry place (.link target)) := by
  induction links, dir, names using walk_induction with
  | nil links dir => exact .inl (by rw [walk_nil, walk_nil])
  | dot links dir rest ih => rw [walk_dot, walk_dot]; exact ih
  | up links dir rest ih => rw [walk_up, walk_up]; exact ih
  | name links dir name rest hdot hup hinto hbehind =>
      rw [walk_name hdot hup, walk_name hdot hup]
      split
      · exact .inl rfl
      · cases fs.entry? (name :: dir) with
        | none => exact .inl rfl
        | some e =>
            cases e with
            | directory => exact hinto
            | file content executable => exact .inl rfl
            | link target =>
                by_cases hrest : rest = []
                · exact .inr ⟨_, _, if_pos ⟨hrest, rfl⟩⟩
                · simp only [hrest, false_and, if_false]
                  cases links with
                  | zero => exact .inl rfl
                  | succ left => exact hbehind left target rfl

/-- Whatever ends in a dot or two is a directory. -/
theorem directory_of_walk_concat (hlast : last = Path.dot ∨ last = Path.dotDot)
    (h : fs.walk follow links dir (names ++ [last]) = .ok (.entry place e)) : e = .directory := by
  obtain ⟨d, left, -, -, h⟩ := exists_through (List.cons_ne_nil _ _) h
  rcases hlast with rfl | rfl
  · rw [walk_dot, walk_nil] at h
    exact (Found.entry.inj (Except.ok.inj h)).2.symm
  · rw [walk_up, walk_nil] at h
    exact (Found.entry.inj (Except.ok.inj h)).2.symm

/-! ## Directories that paths lead to -/

/-- The directory that some names lead to, links followed. -/
def Leads (fs : FileSystem) (origin : Location) (names : List Name) (place : Location) : Prop :=
  fs.walk true maxLinks origin names = .ok (.entry place .directory)

theorem Keeps.leads (h : fs.Keeps gs) (hl : fs.Leads origin names place) :
    gs.Leads origin names place := by
  obtain ⟨e, he, hshape⟩ := h.walk hl
  cases e <;> first | exact he | cases hshape

/-- Dots and slashes do not matter to where a path leads. -/
theorem leads_iff_of_filter_eq (h : names.filter isStep = p.names) :
    fs.Leads origin p.names place ↔ fs.Leads origin names place := by
  have hnames : p.names.filter isStep = p.names := by
    rw [← steps_filter, List.filter_filter]
    simp
  constructor
  · exact walk_reachesAlike fs maxLinks _ _ _ _ (by rw [hnames, h])
  · exact walk_reachesAlike fs maxLinks _ _ _ _ (by rw [hnames, h])

theorem isDirectory_iff_leads (fs : FileSystem) (p : Path) : fs.isDirectory p = true ↔
    p.bytes ≠ [] ∧ p.bytes.length < maxPathLength ∧
      ∃ place, fs.Leads (start fs.here p) p.names place := by
  have hstat (place : Location) : fs.stat p = .ok (place, .directory) ↔
      p.bytes ≠ [] ∧ p.bytes.length < maxPathLength ∧ fs.Leads (start fs.here p) p.names place := by
    rw [stat_eq_ok_iff, find_eq_ok_iff, leads_iff_of_filter_eq (steps_filter p), Leads]
  rw [isDirectory]
  constructor
  · intro h
    split at h
    · next place hs =>
        obtain ⟨hb, hlen, hl⟩ := (hstat place).mp hs
        exact ⟨hb, hlen, place, hl⟩
    · cases h
  · rintro ⟨hb, hlen, place, hl⟩
    rw [(hstat place).mpr ⟨hb, hlen, hl⟩]

theorem filter_isStep_body (p : Path) : (p.body.filter (· ≠ [])).filter isStep = p.names := by
  rw [Path.names_eq_filter_body, List.filter_filter]
  refine List.filter_congr fun piece _ => ?_
  by_cases h : piece = [] <;> by_cases hd : piece = Path.dot <;>
    simp [isStep, Path.isIgnored, h, hd]

theorem start_join (h : Path.NormalName name) (here : Location) :
    start here (q.join ⟨name⟩) = start here q := by
  rw [start, start, Path.isAbsolute_join h]

theorem steps_join (h : Path.NormalName name) :
    steps (q.join ⟨name⟩) = q.body.filter (· ≠ []) ++ [name] := by
  have hp := Path.pieces_join h (p := q)
  rw [steps, endsInSlash_of_last hp h.ne_nil, hp, List.filter_append]
  simp [h.ne_nil]

/-- A walk that finds something at a name has found the directory before it. -/
theorem exists_leads_of_walk {found : Found} (hname : Path.NormalName name)
    (hlinks : links ≤ maxLinks)
    (h : fs.walk follow links (start here (q.join ⟨name⟩)) (steps (q.join ⟨name⟩)) = .ok found) :
    ∃ dir left, left ≤ links ∧ fs.Leads (start here q) q.names dir ∧
      fs.walk follow left dir [name] = .ok found := by
  rw [steps_join hname, start_join hname] at h
  obtain ⟨dir, left, le, first, h⟩ := exists_through (List.cons_ne_nil _ _) h
  exact ⟨dir, left, le, (leads_iff_of_filter_eq (filter_isStep_body q)).mpr
    (walk_mono hlinks first), h⟩

/-! ## Opening a file -/

/-- What there is to open under a name in a directory. -/
inductive Opens (fs : FileSystem) (via : Location → Path → Except Errno (Location × FileSystem))
    (dir : Location) (name : Name) (loc : Location) (gs : FileSystem) : Prop where
  | fresh (absent : fs.entry? (name :: dir) = none) (at_name : loc = name :: dir)
      (puts : gs = fs.put loc (.file [] false))
  | again (content : Bytes) (executable : Bool)
      (there : fs.entry? (name :: dir) = some (.file content executable))
      (at_name : loc = name :: dir) (puts : gs = fs.put loc (.file [] executable))
  | through (target : Path) (link : fs.entry? (name :: dir) = some (.link target))
      (opened : via dir target = .ok (loc, gs))

theorem createWith_join (via : Location → Path → Except Errno (Location × FileSystem))
    (h : Path.NormalName name) : fs.createWith via here (q.join ⟨name⟩) = .ok (loc, gs) ↔
      ∃ dir, fs.Leads (start here q) q.names dir ∧ name.length ≤ maxNameLength ∧ fs.Opens via dir name loc gs := by
  have hpieces := Path.pieces_join h (p := q)
  have hnames : (q.join ⟨name⟩).pieces.filter (· ≠ []) = q.body.filter (· ≠ []) ++ [name] := by
    rw [hpieces, List.filter_append]
    simp [h.ne_nil]
  have hends : ¬(endsInSlash (q.join ⟨name⟩) = true ∨ name = Path.dot ∨ name = Path.dotDot) := by
    simp [endsInSlash_of_last hpieces h.ne_nil, h.ne_dot, h.ne_dotDot]
  rw [createWith, hnames, List.getLast?_concat, List.dropLast_concat, start_join h]
  simp only [leads_iff_of_filter_eq (filter_isStep_body q)]
  unfold Leads
  cases fs.walk true maxLinks (start here q) (q.body.filter (· ≠ [])) with
  | error e => simp
  | ok found =>
      cases found with
      | absent parent name => simp
      | entry place e =>
          cases e with
          | file content executable => simp
          | link target => simp
          | directory =>
              simp only [if_neg hends]
              constructor
              · intro hc
                split at hc
                · cases hc
                · next hlong =>
                    refine ⟨place, rfl, Nat.not_lt.mp hlong, ?_⟩
                    split at hc
                    · next he =>
                        obtain ⟨rfl, rfl⟩ := Prod.mk.inj (Except.ok.inj hc)
                        exact .fresh he rfl rfl
                    · next he =>
                        obtain ⟨rfl, rfl⟩ := Prod.mk.inj (Except.ok.inj hc)
                        exact .again _ _ he rfl rfl
                    · cases hc
                    · next he => exact .through _ he hc
              · rintro ⟨dir, hdir, hshort, hopens⟩
                obtain rfl := (Found.entry.inj (Except.ok.inj hdir)).1
                rw [if_neg (Nat.not_lt.mpr hshort)]
                cases hopens with
                | fresh absent at_name puts => rw [absent, puts, at_name]
                | again content executable there at_name puts => rw [there, puts, at_name]
                | through target link opened => rw [link]; exact opened

/-- A path ends in a name or it cannot be a file's. -/
theorem last_piece_cases (p : Path) : (∃ (q : Path) (name : Name), Path.NormalName name ∧ p = q.join ⟨name⟩) ∨
    p.bytes = [] ∨ endsInSlash p = true ∨
      ∃ init last, (last = Path.dot ∨ last = Path.dotDot) ∧ p.pieces = init ++ [last] := by
  obtain ⟨init, last, hp⟩ := (List.eq_nil_or_concat p.pieces).resolve_left p.pieces_ne_nil
  rw [List.concat_eq_append] at hp
  by_cases hlast : last = []
  · subst hlast
    by_cases hinit : init = []
    · refine .inr (.inl ?_)
      rw [← Separated.join_split Path.slash p.bytes, ← Path.pieces, hp, hinit]
      rfl
    · refine .inr (.inr (.inl (decide_eq_true ?_)))
      exact (Separated.getLast?_eq_sep_iff _ _).mpr ⟨init, hinit, hp⟩
  · by_cases hdots : last = Path.dot ∨ last = Path.dotDot
    · exact .inr (.inr (.inr ⟨init, last, hdots, hp⟩))
    · have hslash : Path.slash ∉ last := Path.not_mem_of_mem_pieces (p := p) (by simp [hp])
      have hnormal : Path.NormalName last :=
        ⟨hlast, fun h => hdots (.inl h), fun h => hdots (.inr h), hslash⟩
      obtain ⟨q, hq⟩ := Path.exists_join hnormal hp
      exact .inl ⟨q, last, hnormal, hq⟩

theorem exists_join_of_walk
    (h : fs.walk follow links (start here p) (steps p) = .ok (.entry place e))
    (he : e ≠ .directory) : ∃ (q : Path) (name : Name), Path.NormalName name ∧ p = q.join ⟨name⟩ := by
  rcases last_piece_cases p with hjoin | hb | hslash | ⟨init, last, hlast, hp⟩
  · exact hjoin
  · have hsteps : steps p = [] := by
      obtain ⟨bytes⟩ := p
      subst hb
      rfl
    rw [hsteps, walk_nil] at h
    exact absurd (Found.entry.inj (Except.ok.inj h)).2.symm he
  · rw [steps, if_pos hslash] at h
    exact absurd (directory_of_walk_concat (.inl rfl) h) he
  · have hne : last ≠ [] := by rcases hlast with rfl | rfl <;> decide
    rw [steps, endsInSlash_of_last hp hne, hp, List.filter_append] at h
    simp only [hne, ne_eq, not_false_eq_true, decide_true, List.filter_cons_of_pos,
      List.filter_nil, Bool.false_eq_true, if_false, List.append_nil] at h
    exact absurd (directory_of_walk_concat hlast h) he

theorem exists_join_of_createWith
    {via : Location → Path → Except Errno (Location × FileSystem)}
    (h : fs.createWith via here p = .ok (loc, gs)) :
    ∃ (q : Path) (name : Name), Path.NormalName name ∧ p = q.join ⟨name⟩ := by
  rcases last_piece_cases p with hjoin | hbad
  · exact hjoin
  · exfalso
    rw [createWith] at h
    simp only [] at h
    split at h
    · cases h
    · next name hname =>
        have hends : endsInSlash p = true ∨ name = Path.dot ∨ name = Path.dotDot := by
          rcases hbad with hb | hslash | ⟨init, last, hlast, hp⟩
          · simp [Path.pieces, hb] at hname
          · exact .inl hslash
          · have hne : last ≠ [] := by rcases hlast with rfl | rfl <;> decide
            rw [hp, List.filter_append] at hname
            simp only [hne, ne_eq, not_false_eq_true, decide_true, List.filter_cons_of_pos,
              List.filter_nil, List.getLast?_concat, Option.some.injEq] at hname
            exact .inr (hname ▸ hlast)
        split at h
        · cases h
        · cases h
        · cases h
        · cases h
        · rw [if_pos hends] at h
          cases h

/-- Opens a file behind a link. -/
def createBehind (fs : FileSystem) : Nat → Location → Path → Except Errno (Location × FileSystem)
  | 0 => fun _ _ => .error .tooManyLinks
  | links + 1 => fs.createVia links

theorem createVia_eq (fs : FileSystem) (links : Nat) :
    fs.createVia links = fs.createWith (fs.createBehind links) := by
  cases links <;> rfl

/-- A file that a walk finds is opened with no more links than the walk had. -/
theorem createVia_of_walk {more : Nat} {old : Bytes} {executable : Bool} (hlinks : links ≤ maxLinks)
    (hmore : links ≤ more)
    (h : fs.walk true links (start here p) (steps p) = .ok (.entry loc (.file old executable))) :
    fs.createVia more here p = .ok (loc, fs.put loc (.file [] executable)) := by
  induction links using Nat.strongRecOn generalizing more here p with
  | ind links ih =>
      obtain ⟨q, name, hname, rfl⟩ := exists_join_of_walk h (by simp)
      obtain ⟨dir, left, le, hleads, h⟩ := exists_leads_of_walk hname hlinks h
      rw [createVia_eq, createWith_join _ hname]
      rw [walk_last hname.ne_dot hname.ne_dotDot] at h
      split at h
      · cases h
      · next hlong =>
          refine ⟨dir, hleads, Nat.not_lt.mp hlong, ?_⟩
          split at h
          · cases h
          · next target he =>
              -- the walk goes on behind the link, and so does the opening
              rw [if_neg (by simp)] at h
              cases left with
              | zero => cases h
              | succ left =>
                  obtain ⟨more, rfl⟩ : ∃ m, more = m + 1 := ⟨more - 1, by omega⟩
                  exact .through target he (ih left (by omega) (by omega) (by omega) h)
          · next e hno he =>
              obtain ⟨rfl, rfl⟩ := Found.entry.inj (Except.ok.inj h)
              exact .again old executable he rfl rfl

/-- Opening a file keeps what is there, and as long as that is kept it opens the same file
again. -/
theorem createVia_opens (h : fs.createVia links here p = .ok (loc, gs)) :
    fs.Keeps gs ∧ ∀ {hs content executable}, fs.Keeps hs →
      hs.entry? loc = some (.file content executable) →
      hs.createVia links here p = .ok (loc, hs.put loc (.file [] executable)) := by
  induction links using Nat.strongRecOn generalizing here p with
  | ind links ih =>
      rw [createVia_eq] at h
      obtain ⟨q, name, hname, rfl⟩ := exists_join_of_createWith h
      obtain ⟨dir, leads, hshort, hopens⟩ := (createWith_join _ hname).mp h
      have hagain {hs : FileSystem} (hkeeps : fs.Keeps hs) {after : FileSystem}
          (hopens : hs.Opens (hs.createBehind links) dir name loc after) :
          hs.createVia links here (q.join ⟨name⟩) = .ok (loc, after) := by
        rw [createVia_eq, createWith_join _ hname]
        exact ⟨dir, hkeeps.leads leads, hshort, hopens⟩
      cases hopens with
      | fresh absent at_name puts =>
          subst at_name puts
          refine ⟨keeps_put (List.cons_ne_nil _ _) fun old hold => ?_,
            fun hkeeps hfile => hagain hkeeps (.again _ _ hfile rfl rfl)⟩
          rw [absent] at hold
          cases hold
      | again content executable there at_name puts =>
          subst at_name puts
          refine ⟨keeps_put (List.cons_ne_nil _ _) fun old hold => ?_,
            fun hkeeps hfile => hagain hkeeps (.again _ _ hfile rfl rfl)⟩
          rw [← Option.some.inj (there.symm.trans hold)]
          rfl
      | through target link opened =>
          cases links with
          | zero => cases opened
          | succ left =>
              obtain ⟨hkeeps, hnext⟩ := ih left (Nat.lt_succ_self left) opened
              exact ⟨hkeeps, fun hk hfile => hagain hk (.through target (hk.link link) (hnext hk hfile))⟩

theorem create_eq_ok_iff (fs : FileSystem) (p : Path) (found : Location × FileSystem) :
    fs.create p = .ok found ↔ p.bytes ≠ [] ∧ p.bytes.length < maxPathLength ∧
      fs.createVia maxLinks fs.here p = .ok found := by
  unfold create
  split
  · next hb => simp [hb]
  · next hb =>
      split
      · next hlen => simp [Nat.not_lt.mpr hlen]
      · next hlen => simp [hb, Nat.not_le.mp hlen]

/-- A path that can be opened ends in a name, and what stands before that leads to a
directory. -/
theorem exists_leads_of_create (h : fs.create p = .ok (loc, gs)) :
    ∃ q name, Path.NormalName name ∧ p = q.join ⟨name⟩ ∧ p.bytes.length < maxPathLength ∧
      ∃ dir, fs.Leads (start fs.here q) q.names dir := by
  obtain ⟨-, hlen, hvia⟩ := (create_eq_ok_iff ..).mp h
  rw [createVia_eq] at hvia
  obtain ⟨q, name, hname, rfl⟩ := exists_join_of_createWith hvia
  obtain ⟨dir, leads, -, -⟩ := (createWith_join _ hname).mp hvia
  exact ⟨q, name, hname, rfl, hlen, dir, leads⟩

theorem keeps_of_create (h : fs.create p = .ok (loc, gs)) : fs.Keeps gs :=
  (createVia_opens ((create_eq_ok_iff ..).mp h).2.2).1

theorem create_again {hs : FileSystem} {content : Bytes} {executable : Bool}
    (h : fs.create p = .ok (loc, gs)) (hk : fs.Keeps hs)
    (hf : hs.entry? loc = some (.file content executable)) :
    hs.create p = .ok (loc, hs.put loc (.file [] executable)) := by
  obtain ⟨hb, hlen, hvia⟩ := (create_eq_ok_iff ..).mp h
  exact (create_eq_ok_iff ..).mpr ⟨hb, hlen, hk.here_eq ▸ (createVia_opens hvia).2 hk hf⟩

theorem create_of_stat {old : Bytes} {executable : Bool}
    (h : fs.stat p = .ok (loc, .file old executable)) :
    fs.create p = .ok (loc, fs.put loc (.file [] executable)) := by
  obtain ⟨hb, hlen, hw⟩ := (find_eq_ok_iff ..).mp ((stat_eq_ok_iff ..).mp h)
  exact (create_eq_ok_iff ..).mpr ⟨hb, hlen, createVia_of_walk (Nat.le_refl _) (Nat.le_refl _) hw⟩

theorem keeps_fill (fs : FileSystem) (loc : Location) (content : Bytes) :
    fs.Keeps (fs.fill loc content) := by
  unfold fill
  split
  · next old executable he =>
      refine keeps_put (by rintro rfl; cases he) fun other hother => ?_
      rw [← Option.some.inj (he.symm.trans hother)]
      rfl
  · exact .refl fs

end

end FileSystem

end GoldenFiles
