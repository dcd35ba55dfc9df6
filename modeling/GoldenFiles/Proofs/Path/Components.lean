import GoldenFiles.Path.Basic
import GoldenFiles.Proofs.Text.Separated

/-!
# What a name appended to a path does to its components

Paths are texts, and almost nothing about a text survives being joined, cut and
joined again: slashes double, dots stay or go. What does survive is the pair of
where the path starts and which names it goes through, and every statement
about spelled paths below is a statement about that pair. `components_eq` says
that the components are nothing else, apart from one dot at the beginning.

The other half is the cut. A path with a name appended loses that name again
and keeps, of what stood before it, everything but the pieces that meant
nothing at its end: `trimmed`.
-/

namespace GoldenFiles

namespace Path

/-- A piece that is one ordinary component: neither nothing, nor a dot or two,
nor several pieces. -/
structure NormalName (name : Name) : Prop where
  ne_nil : name ≠ []
  ne_dot : name ≠ dot
  ne_dotDot : name ≠ dotDot
  no_slash : slash ∉ name

/-- The pieces of a path that stand for a component wherever they are. -/
def names (p : Path) : List Name := p.pieces.filter fun piece => !isIgnored piece

/-- The component of a piece that stands for one. -/
def ofName (name : Name) : Component := if name = dotDot then .parent else .normal name

/-- What the components of a path begin with before there is a name. -/
def opening (p : Path) : List Component :=
  if p.isAbsolute then [.root] else if p.pieces.head? = some dot then [.current] else []

theorem NormalName.not_ignored {name : Name} (h : NormalName name) : isIgnored name = false := by
  simp [isIgnored, h.ne_nil, h.ne_dot]

theorem NormalName.ofName_eq {name : Name} (h : NormalName name) :
    ofName name = .normal name := if_neg h.ne_dotDot

theorem NormalName.pieces_eq {name : Name} (h : NormalName name) :
    Separated.split slash name = [name] := Separated.split_of_not_mem h.no_slash

theorem NormalName.relative {name : Name} (h : NormalName name) :
    (Path.mk name).isAbsolute = false := by
  unfold isAbsolute
  exact decide_eq_false fun hh => h.no_slash (List.mem_of_head? hh)

theorem component?_eq (piece : Name) :
    component? piece = if isIgnored piece then none else some (ofName piece) := by
  unfold component? ofName
  split
  · rfl
  · split <;> rfl

theorem ofName_injective : Function.Injective ofName := by
  intro a b h
  unfold ofName at h
  split at h <;> split at h
  · next ha hb => rw [ha, hb]
  · cases h
  · cases h
  · exact Component.normal.inj h

theorem pieces_ne_nil (p : Path) : p.pieces ≠ [] := Separated.split_ne_nil _ _

theorem not_mem_of_mem_pieces {p : Path} {piece : Name} (h : piece ∈ p.pieces) :
    slash ∉ piece := Separated.not_mem_of_mem_split h

theorem isAbsolute_iff (p : Path) :
    p.isAbsolute = true ↔ ∃ rest, rest ≠ [] ∧ p.pieces = [] :: rest := by
  obtain ⟨bytes⟩ := p
  unfold isAbsolute pieces
  cases bytes with
  | nil => simp
  | cons b bytes =>
      rw [Separated.split_cons]
      by_cases hb : b = slash
      · simp [hb]
      · rw [if_neg hb]
        cases hs : Separated.split slash bytes with
        | nil => exact absurd hs (Separated.split_ne_nil _ _)
        | cons first rest => simp [hb, Separated.extend]

theorem head?_pieces_of_isAbsolute {p : Path} (h : p.isAbsolute = true) :
    p.pieces.head? = some [] := by
  obtain ⟨rest, -, hp⟩ := (isAbsolute_iff p).mp h
  rw [hp]; rfl

/-- The components are where a path starts and the names it goes through. -/
theorem components_eq (p : Path) : p.components = p.opening ++ p.names.map ofName := by
  have hrest (pieces : List Name) : pieces.filterMap component? =
      (pieces.filter fun piece => !isIgnored piece).map ofName := by
    induction pieces with
    | nil => rfl
    | cons piece pieces ih =>
        rw [List.filterMap_cons, component?_eq, List.filter_cons]
        cases isIgnored piece <;> simp [ih]
  unfold components opening names
  cases hp : p.pieces with
  | nil => exact absurd hp p.pieces_ne_nil
  | cons first rest =>
      have hlead : (firstComponent? first).toList =
          (if first = dot then [.current] else []) ++
            ([first].filter fun piece => !isIgnored piece).map ofName := by
        unfold firstComponent?
        by_cases hd : first = dot
        · simp [hd, isIgnored]
        · rw [if_neg hd, if_neg hd, component?_eq]
          cases hi : isIgnored first <;> simp [hi]
      have habs : p.isAbsolute = true → first ≠ dot := by
        intro h hd
        have := head?_pieces_of_isAbsolute h
        rw [hp, hd] at this
        cases this
      simp only [hrest, hlead, List.head?_cons, Option.some.injEq]
      rw [← List.singleton_append (l := rest), List.filter_append, List.map_append]
      by_cases h : p.isAbsolute = true
      · simp [h, habs h]
      · simp [h, List.append_assoc]

theorem root_mem_opening_iff (p : Path) : .root ∈ p.opening ↔ p.isAbsolute = true := by
  unfold opening
  split
  · simp_all
  · split <;> simp_all

/-- Paths with the same components start at the same place and go through the
same names. -/
theorem Same.start_and_names {p q : Path} (h : p.Same q) :
    p.isAbsolute = q.isAbsolute ∧ p.names = q.names := by
  have hno (r : Path) (c : Component) (hc : c ∈ r.names.map ofName) :
      c ≠ .root ∧ c ≠ .current := by
    obtain ⟨name, -, rfl⟩ := List.mem_map.mp hc
    unfold ofName
    split <;> simp
  have hnames (r : Path) :
      r.components.filter (fun c => c ≠ .root ∧ c ≠ .current) = r.names.map ofName := by
    have hopening : r.opening.filter (fun c => c ≠ .root ∧ c ≠ .current) = [] := by
      unfold opening
      split
      · rfl
      · split <;> rfl
    rw [components_eq, List.filter_append, hopening, List.nil_append, List.filter_eq_self]
    intro c hc
    simpa using hno r c hc
  have habs (r : Path) : .root ∈ r.components ↔ r.isAbsolute = true := by
    rw [components_eq, List.mem_append, root_mem_opening_iff]
    exact or_iff_left fun hc => (hno r _ hc).1 rfl
  unfold Same at h
  constructor
  · rw [Bool.eq_iff_iff, ← habs p, ← habs q, h]
  · refine List.map_injective_iff.mpr ofName_injective ?_
    rw [← hnames p, ← hnames q, h]

theorem parent_mem_components_iff (p : Path) : .parent ∈ p.components ↔ dotDot ∈ p.names := by
  have hopening : .parent ∉ p.opening := by
    unfold opening
    split
    · simp
    · split <;> simp
  rw [components_eq, List.mem_append, or_iff_right hopening, List.mem_map]
  constructor
  · rintro ⟨name, hmem, hname⟩
    unfold ofName at hname
    split at hname
    · next h => exact h ▸ hmem
    · cases hname
  · exact fun hmem => ⟨dotDot, hmem, rfl⟩

theorem components_of_isAbsolute {p : Path} (h : p.isAbsolute = true) :
    p.components = .root :: p.names.map ofName := by
  rw [components_eq, opening, if_pos h]
  rfl

theorem isAbsolute_join_of_relative {p q : Path} (hp : p.isAbsolute = true)
    (hq : q.isAbsolute = false) : (p.join q).isAbsolute = true := by
  obtain ⟨rest, hrest⟩ := List.head?_eq_some_iff.mp (of_decide_eq_true hp)
  rw [join, hq, if_neg (by simp)]
  split <;> simp [isAbsolute, hrest]

/-- A relative path goes on where the other one ends. -/
theorem names_join_of_relative (p : Path) {q : Path} (hq : q.isAbsolute = false) :
    (p.join q).names = p.names ++ q.names := by
  rw [join, hq, if_neg (by simp)]
  split
  · next h =>
      rcases h with hnil | hslash
      · simp [names, pieces, hnil, isIgnored]
      · obtain ⟨init, hinit⟩ := List.getLast?_eq_some_iff.mp hslash
        simp [names, pieces, hinit, Separated.split_append_cons, isIgnored]
  · simp only [names, pieces, Separated.split_append_cons, List.filter_append]

theorem components_join_nil {p : Path} (h : p.isAbsolute = true) :
    (p.join ⟨[]⟩).components = p.components := by
  have hnil : (Path.mk []).isAbsolute = false := rfl
  rw [components_of_isAbsolute (isAbsolute_join_of_relative h hnil), components_of_isAbsolute h,
    names_join_of_relative p hnil]
  exact congrArg _ (congrArg _ (List.append_nil _))

/-! ## Appending a name -/

/-- The pieces that stay in front of an appended name. -/
def body (p : Path) : List Name :=
  if p.bytes = [] then []
  else if p.bytes.getLast? = some slash then p.pieces.dropLast
  else p.pieces

theorem body_eq_nil_iff (p : Path) : p.body = [] ↔ p.bytes = [] := by
  unfold body
  by_cases h : p.bytes = []
  · simp [h]
  · rw [if_neg h]
    split
    · next hs =>
        obtain ⟨init, hinit, hp⟩ := (Separated.getLast?_eq_sep_iff slash p.bytes).mp hs
        rw [pieces, hp, List.dropLast_concat]
        simp [h, hinit]
    · simp [h, p.pieces_ne_nil]

/-- The pieces of a path are its body and perhaps an empty one behind it. -/
theorem pieces_eq_body (p : Path) : p.pieces = p.body ∨ p.pieces = p.body ++ [[]] := by
  unfold body
  by_cases h : p.bytes = []
  · exact .inr (by simp [h, pieces])
  · rw [if_neg h]
    split
    · next hs =>
        obtain ⟨init, -, hp⟩ := (Separated.getLast?_eq_sep_iff slash p.bytes).mp hs
        rw [pieces, hp, List.dropLast_concat]
        exact .inr rfl
    · exact .inl rfl

theorem mem_pieces_of_mem_body {p : Path} {piece : Name} (h : piece ∈ p.body) :
    piece ∈ p.pieces := by
  rcases p.pieces_eq_body with hp | hp <;> rw [hp]
  · exact h
  · exact List.mem_append_left _ h

theorem names_eq_filter_body (p : Path) :
    p.names = p.body.filter fun piece => !isIgnored piece := by
  unfold names
  rcases p.pieces_eq_body with hp | hp <;> rw [hp]
  rw [List.filter_append]
  simp [isIgnored]

theorem head?_body {p : Path} (h : p.bytes ≠ []) : p.body.head? = p.pieces.head? := by
  have hb : p.body ≠ [] := fun hb => h ((body_eq_nil_iff p).mp hb)
  rcases p.pieces_eq_body with hp | hp <;> rw [hp]
  rw [List.head?_append_of_ne_nil _ hb]

theorem isAbsolute_iff_head?_body (p : Path) : p.isAbsolute = true ↔ p.body.head? = some [] := by
  by_cases h : p.bytes = []
  · simp [isAbsolute, body, h]
  · rw [head?_body h, isAbsolute_iff]
    constructor
    · rintro ⟨rest, -, hp⟩
      rw [hp]; rfl
    · intro hp
      obtain ⟨rest, hrest⟩ := List.head?_eq_some_iff.mp hp
      refine ⟨rest, ?_, hrest⟩
      rintro rfl
      refine h ?_
      rw [← Separated.join_split slash p.bytes]
      rw [pieces] at hrest
      rw [hrest]
      rfl

theorem opening_eq (p : Path) : p.opening =
    if p.body.head? = some [] then [.root]
    else if p.body.head? = some dot then [.current] else [] := by
  unfold opening
  simp only [isAbsolute_iff_head?_body]
  by_cases h : p.bytes = []
  · simp [body, pieces, h, dot]
  · rw [head?_body h]

theorem components_eq_nil_iff (p : Path) : p.components = [] ↔ p.bytes = [] := by
  rw [components_eq, List.append_eq_nil_iff, List.map_eq_nil_iff, opening_eq,
    names_eq_filter_body, ← body_eq_nil_iff]
  cases p.body with
  | nil => simp
  | cons first rest =>
      refine iff_of_false ?_ (by simp)
      rintro ⟨hopening, hnames⟩
      have hfirst : isIgnored first = true := by
        simpa using List.filter_eq_nil_iff.mp hnames first List.mem_cons_self
      by_cases h : first = []
      · simp [h] at hopening
      · simp [isIgnored, h] at hfirst
        simp [hfirst, dot] at hopening

theorem pieces_join {p : Path} {name : Name} (h : NormalName name) :
    (p.join ⟨name⟩).pieces = p.body ++ [name] := by
  unfold join
  rw [h.relative, if_neg (by simp)]
  by_cases hp : p.bytes = []
  · rw [if_pos (.inl hp), pieces, hp, List.nil_append, h.pieces_eq, body, if_pos hp]
    rfl
  · by_cases hs : p.bytes.getLast? = some slash
    · rw [if_pos (.inr hs), body, if_neg hp, if_pos hs]
      obtain ⟨bytes, hb⟩ := List.getLast?_eq_some_iff.mp hs
      simp only [pieces, hb, List.append_assoc, List.singleton_append]
      rw [Separated.split_append_cons, Separated.split_append_cons, h.pieces_eq]
      simp
    · rw [if_neg (by simp [hp, hs]), body, if_neg hp, if_neg hs]
      simp only [pieces]
      rw [Separated.split_append_cons, h.pieces_eq]

theorem body_of_normal_last {p : Path} {init : List Name} {name : Name}
    (h : NormalName name) (hp : p.pieces = init ++ [name]) : p.body = init ++ [name] := by
  rcases p.pieces_eq_body with hb | hb
  · rw [← hb, hp]
  · rw [hp] at hb
    exact absurd (List.append_inj_right' hb rfl) (by simp [h.ne_nil])

theorem body_join {p : Path} {name : Name} (h : NormalName name) :
    (p.join ⟨name⟩).body = p.body ++ [name] := body_of_normal_last h (pieces_join h)

theorem names_join {p : Path} {name : Name} (h : NormalName name) :
    (p.join ⟨name⟩).names = p.names ++ [name] := by
  rw [names_eq_filter_body, names_eq_filter_body, body_join h, List.filter_append]
  simp [h.not_ignored]

theorem head?_body_join {p : Path} {name : Name} (h : NormalName name) (piece : Name)
    (hne : piece ≠ name) :
    (p.join ⟨name⟩).body.head? = some piece ↔ p.body.head? = some piece := by
  rw [body_join h]
  cases p.body with
  | nil => simp [Ne.symm hne]
  | cons first rest => simp

theorem isAbsolute_join {p : Path} {name : Name} (h : NormalName name) :
    (p.join ⟨name⟩).isAbsolute = p.isAbsolute := by
  rw [Bool.eq_iff_iff, isAbsolute_iff_head?_body, isAbsolute_iff_head?_body,
    head?_body_join h _ (Ne.symm h.ne_nil)]

/-- Appending a name appends a component and touches no other. -/
theorem components_join {p : Path} {name : Name} (h : NormalName name) :
    (p.join ⟨name⟩).components = p.components ++ [.normal name] := by
  rw [components_eq, components_eq, names_join h, List.map_append, opening_eq, opening_eq,
    List.append_assoc]
  simp only [head?_body_join h _ (Ne.symm h.ne_nil), head?_body_join h _ (Ne.symm h.ne_dot),
    List.map_cons, List.map_nil, h.ofName_eq]

end Path

end GoldenFiles
