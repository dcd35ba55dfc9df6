import GoldenFiles.Naming.Scheme
import GoldenFiles.Proofs.Path.Components
import Mathlib.Data.List.TakeWhile

/-!
# Cutting names off a path

The directory of an output is found by cutting the output's name off again, and
the directories above it by cutting on. What is left is never quite the text one
began with: pieces that stood for nothing before the cut go with it. A path in
which nothing is left to go is `Trim`, every cut gives a trim path, and of a trim
path one more cut takes exactly the last name. So the ancestors of a trim path
are its prefixes, name by name, each shorter than the one before.
-/

namespace GoldenFiles.Path

/-- A list of pieces without those at its end that stand for nothing. -/
def dropIgnored (pieces : List Name) : List Name := (pieces.reverse.dropWhile isIgnored).reverse

theorem dropIgnored_prefix (pieces : List Name) : dropIgnored pieces <+: pieces := by
  unfold dropIgnored
  rw [← List.reverse_suffix, List.reverse_reverse]
  exact List.dropWhile_suffix _

theorem filter_dropIgnored (pieces : List Name) :
    (dropIgnored pieces).filter (fun piece => !isIgnored piece) =
      pieces.filter fun piece => !isIgnored piece := by
  unfold dropIgnored
  rw [← List.reverse_inj, ← List.filter_reverse, List.reverse_reverse, ← List.filter_reverse]
  have hgone : (pieces.reverse.takeWhile isIgnored).filter (fun piece => !isIgnored piece) = [] :=
    List.filter_eq_nil_iff.mpr fun piece hpiece => by simp [List.mem_takeWhile_imp hpiece]
  calc (pieces.reverse.dropWhile isIgnored).filter (fun piece => !isIgnored piece)
      = (pieces.reverse.takeWhile isIgnored ++ pieces.reverse.dropWhile isIgnored).filter
          fun piece => !isIgnored piece := by rw [List.filter_append, hgone, List.nil_append]
    _ = pieces.reverse.filter fun piece => !isIgnored piece := by
        rw [List.takeWhile_append_dropWhile]

theorem not_ignored_getLast_dropIgnored {pieces : List Name} {last : Name}
    (h : (dropIgnored pieces).getLast? = some last) : isIgnored last = false := by
  unfold dropIgnored at h
  rw [List.getLast?_reverse] at h
  simpa [h] using List.head?_dropWhile_not isIgnored pieces.reverse

/-- A path that is empty, or whose last piece counts unless it is the only one. -/
inductive Trim : Path → Prop where
  | empty : Trim ⟨[]⟩
  | pieces (first : Name) (rest : List Name) (no_slash : ∀ piece ∈ first :: rest, slash ∉ piece)
      (last_counts : ∀ last, rest.getLast? = some last → isIgnored last = false) :
      Trim (ofPieces first rest)

/-- What is left of a path when a name is appended and cut off again. -/
def trimmed (p : Path) : Path :=
  match p.body with
  | [] => ⟨[]⟩
  | first :: rest => ofPieces first (dropIgnored rest)

theorem ofPieces_of_ne {first : Name} {rest : List Name} (h : ¬(first = [] ∧ rest = [])) :
    ofPieces first rest = ⟨Separated.join slash (first :: rest)⟩ := if_neg h

theorem pieces_ofPieces {first : Name} {rest : List Name}
    (hs : ∀ piece ∈ first :: rest, slash ∉ piece) (h : ¬(first = [] ∧ rest = [])) :
    (ofPieces first rest).pieces = first :: rest := by
  rw [ofPieces_of_ne h]
  exact Separated.split_join slash (by simp) hs

theorem body_ofPieces {first : Name} {rest : List Name}
    (hs : ∀ piece ∈ first :: rest, slash ∉ piece)
    (hl : ∀ last, rest.getLast? = some last → isIgnored last = false) :
    (ofPieces first rest).body = first :: rest := by
  by_cases h : first = [] ∧ rest = []
  · rw [h.1, h.2]; rfl
  · have hp := pieces_ofPieces hs h
    rcases (ofPieces first rest).pieces_eq_body with hb | hb
    · rw [← hb, hp]
    · -- an empty piece behind the body would be a last piece that does not count
      rw [hp] at hb
      cases hr : rest.getLast? with
      | none =>
          rw [List.getLast?_eq_none_iff] at hr
          subst hr
          have hlen := congrArg List.length hb
          simp only [List.length_cons, List.length_nil, List.length_append] at hlen
          have hnil : (ofPieces first []).body = [] := List.length_eq_zero_iff.mp (by omega)
          rw [hnil] at hb
          simp at hb
          simp [hb] at h
      | some last =>
          have := congrArg List.getLast? hb
          rw [List.getLast?_concat, List.getLast?_cons, hr] at this
          simp only [Option.getD_some, Option.some.injEq] at this
          have hcounts := hl last hr
          simp [this, isIgnored] at hcounts

theorem no_slash_of_body {p : Path} {first : Name} {rest : List Name}
    (hb : p.body = first :: rest) : ∀ piece ∈ first :: dropIgnored rest, slash ∉ piece := by
  intro piece hpiece
  have hmem : piece ∈ p.body := by
    rw [hb]
    exact ((List.cons_prefix_cons.mpr ⟨rfl, dropIgnored_prefix rest⟩).subset hpiece)
  exact not_mem_of_mem_pieces (mem_pieces_of_mem_body hmem)

theorem trimmed_trim (p : Path) : p.trimmed.Trim := by
  unfold trimmed
  split
  · exact .empty
  · next first rest hb =>
      exact .pieces first _ (no_slash_of_body hb) fun last => not_ignored_getLast_dropIgnored

theorem body_trimmed (p : Path) :
    p.trimmed.body = match p.body with | [] => [] | first :: rest => first :: dropIgnored rest := by
  unfold trimmed
  cases hb : p.body with
  | nil => rfl
  | cons first rest =>
      exact body_ofPieces (no_slash_of_body hb) fun last => not_ignored_getLast_dropIgnored

@[simp] theorem names_trimmed (p : Path) : p.trimmed.names = p.names := by
  rw [names_eq_filter_body, names_eq_filter_body, body_trimmed]
  cases p.body with
  | nil => rfl
  | cons first rest =>
      simp only []
      rw [← List.singleton_append, ← List.singleton_append (l := rest), List.filter_append,
        List.filter_append, filter_dropIgnored]

theorem head?_body_trimmed (p : Path) : p.trimmed.body.head? = p.body.head? := by
  rw [body_trimmed]
  cases p.body <;> rfl

@[simp] theorem isAbsolute_trimmed (p : Path) : p.trimmed.isAbsolute = p.isAbsolute := by
  rw [Bool.eq_iff_iff, isAbsolute_iff_head?_body, isAbsolute_iff_head?_body, head?_body_trimmed]

@[simp] theorem components_trimmed (p : Path) : p.trimmed.components = p.components := by
  rw [components_eq, components_eq, opening_eq, opening_eq, head?_body_trimmed, names_trimmed]

theorem trimmed_prefix (p : Path) : p.trimmed.bytes <+: p.bytes := by
  unfold trimmed
  cases hb : p.body with
  | nil => exact List.nil_prefix
  | cons first rest =>
      simp only []
      by_cases hroot : first = [] ∧ dropIgnored rest = []
      · have habs := (isAbsolute_iff_head?_body p).mpr (by rw [hb, hroot.1]; rfl)
        obtain ⟨bytes, hbytes⟩ := List.head?_eq_some_iff.mp (of_decide_eq_true habs)
        rw [ofPieces, if_pos hroot, hbytes]
        exact List.cons_prefix_cons.mpr ⟨rfl, List.nil_prefix⟩
      · have hpieces : first :: dropIgnored rest <+: p.pieces := by
          refine (List.cons_prefix_cons.mpr ⟨rfl, dropIgnored_prefix rest⟩).trans ?_
          rw [← hb]
          rcases p.pieces_eq_body with hp | hp <;> rewrite [hp]
          · exact List.prefix_rfl
          · exact List.prefix_append _ _
        rw [ofPieces_of_ne hroot, ← Separated.join_split slash p.bytes]
        exact Separated.join_prefix slash (by simp) hpieces

theorem prefix_join {p : Path} {name : Name} (h : NormalName name) :
    p.bytes <+: (p.join ⟨name⟩).bytes := by
  rw [join, h.relative, if_neg (by simp)]
  split <;> exact List.prefix_append _ _

/-- The last name of a path is found behind its body, whatever follows it. -/
theorem splitLast?_join {p : Path} {name : Name} (h : NormalName name) :
    (p.join ⟨name⟩).splitLast? = some (p.trimmed, .normal name) := by
  have hc : component? name = some (.normal name) := by
    rw [component?_eq, h.not_ignored, h.ofName_eq]; rfl
  unfold splitLast? trimmed
  rw [pieces_join h]
  cases p.body with
  | nil =>
      simp only [List.nil_append, List.reverse_nil, List.dropWhile_nil, firstComponent?,
        if_neg h.ne_dot, hc, Option.map_some]
  | cons first rest =>
      simp only [List.cons_append, List.reverse_append, List.reverse_cons, List.reverse_nil,
        List.nil_append]
      rw [List.dropWhile_cons_of_neg (by simp [h.not_ignored])]
      simp only [hc, Option.map_some, dropIgnored]

theorem parent?_join {p : Path} {name : Name} (h : NormalName name) :
    (p.join ⟨name⟩).parent? = some p.trimmed := by
  rw [parent?, splitLast?_join h]; rfl

theorem withFileName_join {p : Path} {name other : Name} (h : NormalName name) :
    (p.join ⟨name⟩).withFileName ⟨other⟩ = p.trimmed.join ⟨other⟩ := by
  rw [withFileName, splitLast?_join h]

/-! ## Cutting any path -/

theorem component?_isSome {piece : Name} (h : isIgnored piece = false) :
    component? piece = some (ofName piece) := by rw [component?_eq, h]; rfl

theorem head?_body_eq (p : Path) (h : p.names ≠ []) : p.body.head? = p.pieces.head? := by
  refine head?_body fun hb => h ?_
  rw [names_eq_filter_body, (body_eq_nil_iff p).mpr hb]
  rfl

section

variable {p : Path} {first last : Name} {rest init above : List Name}

theorem names_of_pieces (hp : p.pieces = first :: rest) : p.names =
    [first].filter (fun piece => !isIgnored piece) ++
      (dropIgnored rest).filter (fun piece => !isIgnored piece) := by
  rw [names, hp, filter_dropIgnored, ← List.filter_append, List.singleton_append]

theorem reverse_dropWhile_isIgnored (pieces : List Name) :
    pieces.reverse.dropWhile isIgnored = (dropIgnored pieces).reverse := by
  rw [dropIgnored, List.reverse_reverse]

/-- Where nothing behind the first piece counts, that piece is all there is to cut off. -/
theorem splitLast?_of_alone (hp : p.pieces = first :: rest) (hrest : dropIgnored rest = [])
    (hn : p.names ≠ []) : p.names = [first] ∧ p.opening = [] ∧
      p.splitLast? = some (⟨[]⟩, ofName first) := by
  have hnames := names_of_pieces hp
  rw [hrest] at hnames
  have hcounts : isIgnored first = false := by
    by_contra hno
    exact hn (by simpa [hno] using hnames)
  obtain ⟨hne, hdot⟩ : first ≠ [] ∧ first ≠ dot := by simpa [isIgnored] using hcounts
  refine ⟨by simpa [hcounts] using hnames, ?_, ?_⟩
  · rw [opening_eq, head?_body_eq p hn, hp, List.head?_cons, if_neg (by simp [hne]),
      if_neg (by simp [hdot])]
  · rw [splitLast?, hp]
    simp only [reverse_dropWhile_isIgnored, hrest, List.reverse_nil, firstComponent?, if_neg hdot,
      component?_isSome hcounts, Option.map_some]

/-- Otherwise the last piece that counts is cut off, and with it what stood for nothing on
both sides of it. -/
theorem splitLast?_of_behind (hp : p.pieces = first :: rest)
    (hrest : dropIgnored rest = init ++ [last]) :
    p.names = (first :: init).filter (fun piece => !isIgnored piece) ++ [last] ∧
      p.splitLast? = some (ofPieces first (dropIgnored init), ofName last) ∧
      (ofPieces first (dropIgnored init)).components =
        p.opening ++ ((first :: init).filter fun piece => !isIgnored piece).map ofName := by
  have hlast : (dropIgnored rest).getLast? = some last := by rw [hrest, List.getLast?_concat]
  have hcounts : isIgnored last = false := not_ignored_getLast_dropIgnored hlast
  have hnames : p.names = (first :: init).filter (fun piece => !isIgnored piece) ++ [last] := by
    rw [names_of_pieces hp, hrest, List.filter_append, ← List.append_assoc, ← List.filter_append,
      List.singleton_append]
    simp [hcounts]
  have hbody : (ofPieces first (dropIgnored init)).body = first :: dropIgnored init := by
    refine body_ofPieces (fun piece hpiece => ?_) fun _ => not_ignored_getLast_dropIgnored
    have hinit : init <+: rest := by
      refine List.IsPrefix.trans ?_ ( dropIgnored_prefix rest)
      exact hrest ▸ List.prefix_append init [last]
    have hfront : first :: dropIgnored init <+: p.pieces := by
      rw [hp, List.cons_prefix_cons]
      exact ⟨rfl, List.IsPrefix.trans ( dropIgnored_prefix init) hinit⟩
    exact not_mem_of_mem_pieces (hfront.subset hpiece)
  refine ⟨hnames, ?_, ?_⟩
  · rw [splitLast?, hp]
    simp only [reverse_dropWhile_isIgnored, hrest, List.reverse_append, List.reverse_cons,
      List.reverse_nil, List.nil_append, List.singleton_append, component?_isSome hcounts,
      Option.map_some, List.reverse_reverse]
  · rw [components_eq, opening_eq, opening_eq, names_eq_filter_body, hbody,
      head?_body_eq p (by simp [hnames]), hp, ← List.singleton_append, List.filter_append,
      filter_dropIgnored, ← List.filter_append]
    rfl

/-- A cut takes the last name and what stands for nothing behind it; the start and the
other names stay. -/
theorem exists_splitLast? (h : p.names = above ++ [last]) : ∃ parent,
    p.splitLast? = some (parent, ofName last) ∧
      parent.components = p.opening ++ above.map ofName := by
  cases hp : p.pieces with
  | nil => exact absurd hp p.pieces_ne_nil
  | cons first rest =>
      rcases List.eq_nil_or_concat (dropIgnored rest) with hnil | ⟨init, l, hconcat⟩
      · obtain ⟨hnames, hopening, hsplit⟩ := splitLast?_of_alone hp hnil (by simp [h])
        have hone : [] ++ [first] = above ++ [last] := hnames.symm.trans h
        obtain ⟨rfl, hlast⟩ := List.append_inj' hone rfl
        obtain rfl := (List.cons.inj hlast).1
        exact ⟨⟨[]⟩, hsplit, by rw [hopening]; rfl⟩
      · rw [List.concat_eq_append] at hconcat
        obtain ⟨hnames, hsplit, hparent⟩ := splitLast?_of_behind hp hconcat
        obtain ⟨rfl, hlast⟩ := List.append_inj' (hnames.symm.trans h) rfl
        obtain rfl := (List.cons.inj hlast).1
        exact ⟨_, hsplit, hparent⟩

end

/-- A path whose last component is a name is cut before it. -/
theorem splitLast?_of_getLast? {p : Path} {last : Name}
    (h : p.components.getLast? = some (.normal last)) : ∃ parent,
      p.splitLast? = some (parent, .normal last) ∧
        p.components = parent.components ++ [.normal last] := by
  have hopening : p.opening.getLast? ≠ some (.normal last) := by
    unfold opening
    split
    · simp
    · split <;> simp
  rcases List.eq_nil_or_concat p.names with hnil | ⟨above, name, hconcat⟩
  · rw [components_eq, hnil, List.map_nil, List.append_nil] at h
    exact absurd h hopening
  · rw [List.concat_eq_append] at hconcat
    obtain ⟨parent, hsplit, hparent⟩ := exists_splitLast? hconcat
    have hcomponents : p.components = parent.components ++ [ofName name] := by
      rw [components_eq, hconcat, List.map_append, ← List.append_assoc, hparent]
      rfl
    rw [hcomponents, List.getLast?_concat, Option.some.injEq] at h
    rw [h] at hsplit hcomponents
    exact ⟨parent, hsplit, hcomponents⟩

/-- Whatever a path ends in, giving it a file name appends that name to some path. -/
theorem withFileName_eq_join (p name : Path) : ∃ q : Path, p.withFileName name = q.join name := by
  unfold withFileName
  split
  · exact ⟨_, rfl⟩
  · exact ⟨p, rfl⟩

/-! ## Going up from a trim path -/

/-- What one cut does to a trim path: `parent` is the path without its last name. -/
structure Cut (p parent : Path) (above : List Name) (last : Name) : Prop where
  parent_eq : p.parent? = some parent
  names_eq : p.names = above ++ [last]
  trim : parent.Trim
  parent_names : parent.names = above
  isAbsolute_eq : parent.isAbsolute = p.isAbsolute
  shorter : parent.bytes.length < p.bytes.length
  subset : parent.bytes ⊆ p.bytes
  /-- The last name is the last piece, so nothing behind it asks for a directory. -/
  last_piece : ∃ init, p.pieces = init ++ [last]

theorem names_of_body {p : Path} {init : List Name} {last : Name} (hb : p.body = init ++ [last])
    (hl : isIgnored last = false) :
    p.names = init.filter (fun piece => !isIgnored piece) ++ [last] := by
  rw [names_eq_filter_body, hb, List.filter_append]
  simp [hl]

theorem cut_single {first last : Name} {above : List Name} (hs : slash ∉ first)
    (hn : (ofPieces first []).names = above ++ [last])
    (hb : (ofPieces first []).body = [first]) :
    Cut (ofPieces first []) ⟨[]⟩ above last := by
  rw [names_eq_filter_body, hb] at hn
  have hcounts : isIgnored first = false := by
    by_contra h
    simp [h] at hn
  obtain ⟨rfl, rfl⟩ : above = [] ∧ first = last := by
    cases above <;> simp_all
  obtain ⟨hne, hdot⟩ : first ≠ [] ∧ first ≠ dot := by simpa [isIgnored] using hcounts
  have hp : (ofPieces first []).pieces = [first] := pieces_ofPieces (by simpa using hs) (by simp [hne])
  have hbytes : (ofPieces first []).bytes = first := by
    rw [ofPieces_of_ne (by simp [hne])]
    simp [Separated.join, List.intercalate]
  refine ⟨?_, by rw [names_eq_filter_body, hb, hn], .empty, rfl, ?_, ?_, by simp, ⟨[], hp⟩⟩
  · simp only [parent?, splitLast?, hp, List.reverse_nil, List.dropWhile_nil, firstComponent?,
      if_neg hdot, component?_isSome hcounts, Option.map_some]
  · rw [Bool.eq_iff_iff, isAbsolute_iff_head?_body, isAbsolute_iff_head?_body, hb]
    simp [body, hne]
  · rw [hbytes]
    exact List.length_pos_iff.mpr hne

theorem cut_pieces {first last : Name} {rest above : List Name}
    (hs : ∀ piece ∈ first :: (rest ++ [last]), slash ∉ piece) (hl : isIgnored last = false)
    (hn : (ofPieces first (rest ++ [last])).names = above ++ [last]) :
    Cut (ofPieces first (rest ++ [last])) (ofPieces first (dropIgnored rest)) above last := by
  have hlast : ∀ l, (rest ++ [last]).getLast? = some l → isIgnored l = false := by simp [hl]
  have hne : ¬(first = [] ∧ rest ++ [last] = []) := by simp
  have hp := pieces_ofPieces hs hne
  have hdrop := dropIgnored_prefix rest
  have hs' : ∀ piece ∈ first :: dropIgnored rest, slash ∉ piece := fun piece hpiece =>
    hs piece (((List.cons_prefix_cons.mpr ⟨rfl, hdrop.trans (List.prefix_append _ _)⟩).subset) hpiece)
  have hb' := body_ofPieces hs' fun l => not_ignored_getLast_dropIgnored
  have hbytes : (ofPieces first (rest ++ [last])).bytes =
      Separated.join slash (first :: rest) ++ slash :: last := by
    rw [ofPieces_of_ne hne]
    simp only []
    rw [← List.cons_append, Separated.join_append slash (by simp) (by simp)]
    simp [Separated.join, List.intercalate]
  have hparent : (ofPieces first (dropIgnored rest)).bytes.length <
      (ofPieces first (rest ++ [last])).bytes.length ∧
      (ofPieces first (dropIgnored rest)).bytes ⊆ (ofPieces first (rest ++ [last])).bytes := by
    rw [hbytes]
    by_cases hroot : first = [] ∧ dropIgnored rest = []
    · have hlen : last ≠ [] := by rintro rfl; simp [isIgnored] at hl
      have := List.length_pos_iff.mpr hlen
      rw [ofPieces, if_pos hroot]
      constructor
      · simp only [List.length_cons, List.length_nil, List.length_append]; omega
      · intro b hb
        rw [List.mem_singleton.mp hb]
        simp
    · rw [ofPieces_of_ne hroot]
      have hpre := Separated.join_prefix slash (by simp)
        (List.cons_prefix_cons.mpr ⟨rfl, hdrop⟩ : first :: dropIgnored rest <+: first :: rest)
      constructor
      · have := hpre.length_le
        simp only [List.length_append, List.length_cons]; omega
      · exact fun b hb => List.mem_append_left _ (hpre.subset hb)
  refine ⟨?_, hn, .pieces first _ hs' fun l => not_ignored_getLast_dropIgnored, ?_, ?_, hparent.1,
    hparent.2, ⟨first :: rest, by rw [hp]; rfl⟩⟩
  · simp only [parent?, splitLast?, hp, List.reverse_append, List.reverse_cons, List.reverse_nil,
      List.nil_append]
    rw [List.singleton_append, List.dropWhile_cons_of_neg (by simp [hl])]
    simp only [component?_isSome hl, Option.map_some, dropIgnored]
  · have hbody : (ofPieces first (rest ++ [last])).body = (first :: rest) ++ [last] :=
      body_ofPieces hs hlast
    rw [names_of_body hbody hl] at hn
    rw [names_eq_filter_body, hb', ← List.append_cancel_right hn, ← List.singleton_append,
      List.filter_append, filter_dropIgnored, ← List.filter_append, List.singleton_append]
  · rw [Bool.eq_iff_iff, isAbsolute_iff_head?_body, isAbsolute_iff_head?_body, hb',
      body_ofPieces hs hlast]
    rfl

/-- A trim path with a name has a parent without it, which is trim again. -/
theorem Trim.cut {p : Path} (h : p.Trim) {above : List Name} {last : Name}
    (hn : p.names = above ++ [last]) : ∃ parent, Cut p parent above last := by
  cases h with
  | empty =>
      have : (Path.mk []).names = [] := rfl
      rw [this] at hn
      simp at hn
  | pieces first rest hs hl =>
      have hb := body_ofPieces hs hl
      rcases List.eq_nil_or_concat rest with rfl | ⟨rest, l, rfl⟩
      · exact ⟨_, cut_single (hs first (by simp)) hn hb⟩
      · have hcounts := hl l (by simp)
        rw [List.concat_eq_append] at hs hn hb ⊢
        rw [← List.cons_append] at hb
        have hlast := names_of_body hb hcounts
        rw [hn] at hlast
        obtain rfl : last = l := by simpa using (List.append_inj' hlast rfl).2
        exact ⟨_, cut_pieces hs hcounts hn⟩

theorem Cut.last_counts {p parent : Path} {above : List Name} {last : Name}
    (h : Cut p parent above last) : isIgnored last = false := by
  have hmem : last ∈ p.names := by rw [h.names_eq]; simp
  simpa using (List.mem_filter.mp hmem).2

theorem exists_upTo_eq_cons (n : Nat) (p : Path) : ∃ rest, ancestors.upTo n p = p :: rest := by
  cases n <;> exact ⟨_, rfl⟩

/-- The ancestors of a trim path begin with the path and go on with its parent's. -/
theorem Cut.upTo_eq {p parent : Path} {above : List Name} {last : Name}
    (h : Cut p parent above last) {n : Nat} (hn : p.bytes.length ≤ n) :
    ∃ m, parent.bytes.length ≤ m ∧ ancestors.upTo n p = p :: ancestors.upTo m parent := by
  have hshort := h.shorter
  cases n with
  | zero => omega
  | succ m =>
      refine ⟨m, by omega, ?_⟩
      rw [ancestors.upTo, h.parent_eq]

end GoldenFiles.Path
