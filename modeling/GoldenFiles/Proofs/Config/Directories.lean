import GoldenFiles.Proofs.Config.Accepted

/-!
# When two paths stand for one directory

Directories are compared by the places they are, and those that are not there by their
absolute paths without dots. So there are two ways to what stands for a directory, and
which one is taken depends on what exists. On a file system without links, and for paths
that never go up, both come to the same: the names from the root on, which can be read off
the path and the current directory without a look at the file system. What exists makes no
difference then, and neither does a directory that is made in between.

A path that goes up is another matter. Where a name before the two dots is missing, the
dots stay in what stands for the directory.
-/

namespace GoldenFiles

namespace Path

/-- A path that never goes up. -/
def Plain (p : Path) : Prop := .parent ∉ p.components

instance (p : Path) : Decidable p.Plain := inferInstanceAs (Decidable (_ ∉ _))

/-- The names of a plain path are ordinary ones. -/
theorem Plain.normalName {p : Path} (plain : p.Plain) {name : Name} (h : name ∈ p.names) :
    NormalName name := by
  obtain ⟨hmem, hcounts⟩ := List.mem_filter.mp h
  obtain ⟨hne, hdot⟩ : name ≠ [] ∧ name ≠ dot := by simpa [isIgnored] using hcounts
  refine ⟨hne, hdot, ?_, not_mem_of_mem_pieces hmem⟩
  rintro rfl
  exact plain ((parent_mem_components_iff p).mpr h)

end Path

namespace FileSystem

variable {fs gs : FileSystem} {p a b : Path}

/-- The names that a path goes through from the root on. -/
def absolute (fs : FileSystem) (p : Path) : List Name := (start fs.here p).reverse ++ p.names

theorem WellFormed.normalName_absolute (wf : fs.WellFormed) (plain : p.Plain) {name : Name}
    (h : name ∈ fs.absolute p) : Path.NormalName name := by
  rcases List.mem_append.mp h with hstart | hname
  · rw [List.mem_reverse, start] at hstart
    split at hstart
    · cases hstart
    · exact (wf.names wf.here name hstart).toNormalName
  · exact plain.normalName hname

/-! ## Components from the root on -/

theorem map_ofName_of_normal {names : List Name} (h : ∀ name ∈ names, Path.NormalName name) :
    names.map Path.ofName = names.map .normal :=
  List.map_congr_left fun name hname => (h name hname).ofName_eq

theorem names_pathOf {loc : Location} (h : ∀ name ∈ loc, Path.NormalName name) :
    (pathOf loc).names = loc.reverse := by
  have hpieces : (pathOf loc).pieces = [] :: Separated.split Path.slash
      (Separated.join Path.slash loc.reverse) := by
    rw [Path.pieces, pathOf, Separated.split_cons, if_pos rfl]
  rw [Path.names, hpieces, List.filter_cons_of_neg (by simp [Path.isIgnored])]
  by_cases hloc : loc = []
  · rw [hloc]
    rfl
  · rw [Separated.split_join _ (by simpa using hloc)
      fun name hname => (h name (List.mem_reverse.mp hname)).no_slash, List.filter_eq_self]
    intro name hname
    simp [(h name (List.mem_reverse.mp hname)).not_ignored]

theorem components_pathOf {loc : Location} (h : ∀ name ∈ loc, Path.NormalName name) :
    (pathOf loc).components = .root :: loc.reverse.map .normal := by
  rw [Path.components_of_isAbsolute rfl, names_pathOf h, map_ofName_of_normal]
  exact fun name hname => h name (List.mem_reverse.mp hname)

/-- A directory that is there stands for the names of its place, and they are the names
of the path. -/
theorem reverse_of_canonical? (free : fs.LinkFree) (plain : p.Plain) {loc : Location}
    (h : fs.canonical? p = some loc) : loc.reverse = fs.absolute p := by
  unfold canonical? at h
  split at h
  · cases h
  · split at h
    · next place e hwalk =>
        obtain rfl := Option.some.inj h
        have hnames : ∀ name ∈ p.names, name ≠ Path.dot ∧ name ≠ Path.dotDot := fun name hname =>
          ⟨(plain.normalName hname).ne_dot, (plain.normalName hname).ne_dotDot⟩
        rw [eq_destination_of_walk free hwalk, ← destination_filter, steps_filter,
          destination_of_plain _ hnames, List.reverse_append, List.reverse_reverse, absolute]
    · cases h

/-- A path that is taken from the current directory goes through its names first. -/
theorem components_join_here (wf : fs.WellFormed) (plain : p.Plain) :
    ((pathOf fs.here).join p).components = .root :: (fs.absolute p).map .normal := by
  have habsolute : ((pathOf fs.here).join p).isAbsolute = true ∧
      ((pathOf fs.here).join p).names = fs.absolute p := by
    by_cases hp : p.isAbsolute = true
    · rw [Path.join, if_pos hp, absolute, start, if_pos hp]
      exact ⟨hp, rfl⟩
    · have hrelative : p.isAbsolute = false := Bool.eq_false_iff.mpr hp
      refine ⟨Path.isAbsolute_join_of_relative rfl hrelative, ?_⟩
      rw [Path.names_join_of_relative _ hrelative, absolute, start, if_neg hp,
        names_pathOf fun name hname => (wf.names wf.here name hname).toNormalName]
  rw [Path.components_of_isAbsolute habsolute.1, habsolute.2,
    map_ofName_of_normal fun name hname => wf.normalName_absolute plain hname]

/-- Whichever way is taken, the names from the root on stand for a directory. -/
theorem comparable_eq (wf : fs.WellFormed) (free : fs.LinkFree) (plain : p.Plain) :
    fs.comparable p = .root :: (fs.absolute p).map .normal := by
  unfold comparable
  split
  · next loc hloc =>
      have hnames := reverse_of_canonical? free plain hloc
      rw [components_pathOf, hnames]
      intro name hname
      exact wf.normalName_absolute plain (hnames ▸ List.mem_reverse.mpr hname)
  · rw [components_join_here wf plain, List.filter_eq_self]
    intro c hc
    rcases List.mem_cons.mp hc with rfl | hc
    · rfl
    · obtain ⟨name, -, rfl⟩ := List.mem_map.mp hc
      rfl

theorem sameDirectory_iff (fs : FileSystem) (a b : Path) :
    fs.sameDirectory a b = true ↔ fs.comparable a = fs.comparable b := decide_eq_true_iff

theorem sameDirectory_iff_of_plain (wf : fs.WellFormed) (free : fs.LinkFree) (ha : a.Plain)
    (hb : b.Plain) : fs.sameDirectory a b = true ↔ fs.absolute a = fs.absolute b := by
  rw [sameDirectory_iff, comparable_eq wf free ha, comparable_eq wf free hb, List.cons.injEq,
    List.map_inj_right fun _ _ => Component.normal.inj]
  exact and_iff_right rfl

/-- Making directories does not change which ones are the same. -/
theorem Made.sameDirectory_eq {places : List Location} (h : fs.Made gs places)
    (wf : fs.WellFormed) (free : fs.LinkFree) (ha : a.Plain) (hb : b.Plain) :
    gs.sameDirectory a b = fs.sameDirectory a b := by
  rw [Bool.eq_iff_iff, sameDirectory_iff_of_plain wf free ha hb,
    sameDirectory_iff_of_plain h.wf h.free ha hb, absolute, absolute, absolute, absolute, h.here_eq]

/-- Plain paths stand for one directory just if they go through the same names from the root
on, whatever exists. Being one directory is an equivalence, and no directory that is made, nor
an attempt that fails halfway, changes it. -/
theorem same_directory_exact (wf : fs.WellFormed) (free : fs.LinkFree) :
    (∀ a b : Path, a.Plain → b.Plain →
      (fs.sameDirectory a b = true ↔ fs.absolute a = fs.absolute b)) ∧
    Equivalence (fun a b : Path => fs.sameDirectory a b = true) ∧
    ∀ a b : Path, a.Plain → b.Plain → ∀ dir : Path,
      (fs.makeDirectories dir).2.sameDirectory a b = fs.sameDirectory a b ∧
      ∀ gs, dir.access (fs.makeDirectory dir) = .ok gs →
        gs.sameDirectory a b = fs.sameDirectory a b := by
  refine ⟨fun a b => sameDirectory_iff_of_plain wf free, ?_, fun a b ha hb dir => ⟨?_, ?_⟩⟩
  · simp only [sameDirectory_iff]
    exact ⟨fun _ => rfl, Eq.symm, Eq.trans⟩
  · obtain ⟨places, hmade⟩ := (makesAlong_makeNested dir.ancestors fs).exists_made wf free
    exact hmade.sameDirectory_eq wf free ha hb
  · intro gs hmake
    have hmakes : MakesAlong [dir] fs gs := .single ⟨dir, List.mem_singleton_self dir, hmake⟩
    obtain ⟨places, hmade⟩ := hmakes.exists_made wf free
    exact hmade.sameDirectory_eq wf free ha hb

/-- A directory to work in that holds another one. -/
def workFiles : FileSystem where
  entries := [([Utf8.encode "work"], .directory), ([Utf8.encode "f", Utf8.encode "work"], .directory)]
  here := [Utf8.encode "work"]
  distinct := by decide +kernel

/-- One directory that is there, spelled in two ways, and one that is missing and then made. -/
theorem same_directory_exact_example :
    workFiles.WellFormed ∧ workFiles.LinkFree ∧
      workFiles.sameDirectory (.ofString "./f//.") (.ofString "/work/f") = true ∧
      workFiles.sameDirectory (.ofString "new/o/") (.ofString "f") = false ∧
      (workFiles.makeDirectories (.ofString "new/o/")).2.sameDirectory (.ofString "new/o/")
        (.ofString "./new/./o") = true := by
  have wf : workFiles.WellFormed := by decide +kernel
  have free : workFiles.LinkFree := by decide +kernel
  obtain ⟨hexact, -, hstays⟩ := same_directory_exact wf free
  refine ⟨wf, free, ?_, ?_, ?_⟩
  · exact (hexact _ _ (by decide +kernel) (by decide +kernel)).mpr (by decide +kernel)
  · rw [← Bool.not_eq_true, hexact _ _ (by decide +kernel) (by decide +kernel)]
    decide +kernel
  · rw [(hstays _ _ (by decide +kernel) (by decide +kernel) _).1]
    exact (hexact _ _ (by decide +kernel) (by decide +kernel)).mpr (by decide +kernel)

end FileSystem

end GoldenFiles
