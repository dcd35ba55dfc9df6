import GoldenFiles.Proofs.Run.Sharing

/-!
# A case among others

The cases of a run put their outputs into one directory, and each of them then
reads what it expects and what it has written. Whatever the others are doing, a
case ends as it was bound to end: its report and the entry of its output are
settled before it starts.

That is why the lemmas here begin with an existential. What a task comes to is
named first, for all file systems and all that may happen between the calls, and
only then does the task begin.
-/

namespace GoldenFiles

open FileSystem GoldenFiles.Task

/-! ## Writing an output in one directory -/

/-- Whether the path of a directory can be handed to the system at all. -/
def FileSystem.Nameable (dir : Path) : Prop :=
  dir.trimmed.bytes.length < maxPathLength ∧ holdsNul dir.trimmed.bytes = false

instance (dir : Path) : Decidable (Nameable dir) := inferInstanceAs (Decidable (_ ∧ _))

/-- A world whose writers put their outputs into one directory. -/
structure FileSystem.World.Serves (w : World) (dir : Path) : Prop where
  up : Path.dotDot ∉ dir.names
  output : ∀ loc ∈ w.outputs, ∃ name, loc = name :: w.goal dir
  reach : Nameable dir → ∀ loc ∈ w.origin.clear (w.way dir), loc ∈ w.places
  only : ∀ loc ∈ w.places, Nameable dir ∧ loc ∈ w.origin.clear (w.way dir)

/-- Where a case stands when its directories have been made as far as they can be. -/
structure FileSystem.World.Settled (w : World) (dir : Path) (own : Location) (e : Option Entry)
    (opened : Prop) (fs : FileSystem) : Prop where
  there : w.At own e fs
  places : fs.Stands w.places
  way : opened → fs.Stands (w.way dir)

namespace FileSystem.World

variable {w : World} {dir : Path} {own : Location} {e : Option Entry} {opened : Prop}
  {fs gs : FileSystem}

theorem way_trimmed (w : World) (dir : Path) : w.way dir.trimmed = w.way dir := by
  rw [way, way, start, start, Path.isAbsolute_trimmed, Path.names_trimmed]

theorem Serves.away (serves : w.Serves dir) : ∀ loc ∈ w.way dir, loc ∉ w.outputs := by
  intro loc hloc hout
  obtain ⟨name, rfl⟩ := serves.output loc hout
  have hlen := (suffix_of_mem_trail serves.up _ hloc).2.length_le
  rw [List.length_cons, goal] at hlen
  omega

theorem Serves.route (serves : w.Serves dir) (h : Nameable dir) : w.Route dir.trimmed where
  up := by rw [Path.names_trimmed]; exact serves.up
  away := by rw [way_trimmed]; exact serves.away
  reach := by rw [way_trimmed]; exact serves.reach h
  short := h.1
  nul := h.2

theorem Settled.of_rely (h : w.Settled dir own e opened fs) (hr : (w.terms own).rely fs gs) :
    w.Settled dir own e opened gs :=
  ⟨h.there.of_rely hr, h.there.stands hr h.places, fun ho => h.there.stands hr (h.way ho)⟩

theorem Settled.imp {other : Prop} (h : w.Settled dir own e opened fs) (ho : other → opened) :
    w.Settled dir own e other fs := ⟨h.there, h.places, fun h' => h.way (ho h')⟩

theorem Settled.enter (h : w.Settled dir own e opened fs) (ho : opened) :
    fs.enter (start fs.here dir) dir.names = .ok (w.goal dir) := by
  rw [h.there.holds.here_eq]
  exact (enter_eq_ok_iff h.there.holds.wf ..).mpr ⟨rfl, h.way ho⟩

theorem Settled.directory (h : w.Settled dir own e opened fs) (ho : opened) :
    fs.entry? (w.goal dir) = some .directory :=
  enter_directory h.there.holds.wf (start_directory h.there.holds.wf dir) (h.enter ho)

end FileSystem.World

section Outputs

variable {w : World} {dir : Path} {own : Location} {e : Option Entry} {opened : Prop}
  {fs : FileSystem}

theorem exists_error_of_not_nameable (up : Path.dotDot ∉ dir.names) (h : ¬Nameable dir) :
    ∃ error, error ≠ .os .noEntry ∧ ∀ fs, w.Holds fs →
      dir.trimmed.access (fs.makeDirectory dir.trimmed) = .error error ∧
        fs.isDirectory dir.trimmed = false := by
  have hb : dir.trimmed.bytes ≠ [] := by
    intro hb
    exact h ⟨by simp [hb, maxPathLength], by simp [hb, holdsNul]⟩
  have his (fs : FileSystem) (hfs : w.Holds fs) : fs.isDirectory dir.trimmed = false := by
    by_cases long : maxPathLength ≤ dir.trimmed.bytes.length
    · exact (makeDirectory_of_long dir.trimmed_trim long).2
    · refine Bool.eq_false_iff.mpr fun his => h ⟨Nat.not_le.mp long, ?_⟩
      have hstands := (isDirectory_iff hfs.wf hfs.free hb (Nat.not_le.mp long)).mp his
      exact hstands.holdsNul_eq_false hfs.wf (by rwa [Path.names_trimmed])
  by_cases nul : holdsNul dir.trimmed.bytes = true
  · refine ⟨nulInPath, by simp [nulInPath], fun fs hfs => ⟨?_, his fs hfs⟩⟩
    rw [Path.access, if_pos nul]
  · have long : maxPathLength ≤ dir.trimmed.bytes.length :=
      Nat.not_lt.mp fun short => h ⟨short, Bool.of_not_eq_true nul⟩
    refine ⟨.os .nameTooLong, by simp, fun fs hfs => ⟨?_, his fs hfs⟩⟩
    rw [Path.access_of_not_holdsNul (Bool.of_not_eq_true nul),
      (makeDirectory_of_long dir.trimmed_trim long).1]
    rfl

theorem settled_of_cleared {result : Except IoError Unit} (serves : w.Serves dir)
    (h : w.Cleared own e (w.way dir) result fs) : w.Settled dir own e (result = .ok ()) fs := by
  refine ⟨h.there, fun loc hloc => h.stands loc (serves.only loc hloc).2, fun hok => ?_⟩
  have hnone : w.origin.refusal (w.way dir) = none := by
    have hresult := h.result_eq
    rw [hok, World.answer] at hresult
    split at hresult
    · assumption
    · cases hresult
  have hstands := h.stands
  rwa [clear_of_barred_eq_nil (refusal_eq_none_iff.mp hnone)] at hstands

/-- A directory that cannot be made for a reason of its own is tried once. -/
theorem safe_makeNested_error {p : Path} {error : IoError} (hat : w.At own e fs)
    (hb : p.bytes ≠ []) (hne : error ≠ .os .noEntry)
    (herror : ∀ fs, w.Holds fs →
      p.access (fs.makeDirectory p) = .error error ∧ fs.isDirectory p = false) (rest : List Path) :
    (Task.makeNested (p :: rest)).Safe (w.terms own)
      (fun result gs => result = .error error ∧ w.At own e gs) fs := by
  have htry : (Task.attempt fun fs => p.access (fs.makeDirectory p)).Safe (w.terms own)
      (fun result gs => result = .error error ∧ w.At own e gs) fs := by
    refine safe_once fun gs hr => ?_
    have hgs := hat.of_rely hr
    beta_reduce
    rw [(herror gs hgs.holds).1]
    exact ⟨hgs.idle, fun hs hrest => ⟨rfl, hgs.of_rely hrest⟩⟩
  have hlook (gs : FileSystem) (hgs : w.At own e gs) : (unlessDirectory p error).Safe
      (w.terms own) (fun result gs => result = .error error ∧ w.At own e gs) gs := by
    have his : (look (·.isDirectory p)).Safe (w.terms own)
        (fun is gs => is = false ∧ w.At own e gs) gs :=
      safe_look hgs fun hs _ hhs ks hrest => ⟨(herror hs hhs.holds).2, hhs.of_rely hrest⟩
    refine his.bind ?_
    rintro _ hs ⟨rfl, hhs⟩
    exact safe_done fun ks hr => ⟨rfl, hhs.of_rely hr⟩
  rw [Task.makeNested, if_neg hb]
  refine htry.bind ?_
  rintro _ gs ⟨rfl, hgs⟩
  cases error with
  | described text => exact hlook gs hgs
  | os condition => cases condition <;> first | exact absurd rfl hne | exact hlook gs hgs

/-- Making the directory of an output comes to the same end for all cases. -/
theorem exists_safe_makeNested (serves : w.Serves dir) (hown : own ∈ w.outputs) :
    ∃ result : Except IoError Unit, (dir.trimmed.bytes = [] → result = .ok ()) ∧
      ∀ e fs, w.At own e fs → (Task.makeNested dir.trimmed.ancestors).Safe (w.terms own)
        (fun r gs => r = result ∧ w.Settled dir own e (result = .ok ()) gs) fs := by
  by_cases h : Nameable dir
  · refine ⟨w.answer (w.way dir), fun hb => ?_, fun e fs hat => ?_⟩
    · have hway : w.way dir = [] := by
        have hnames : dir.names = [] := by
          rw [← dir.names_trimmed, Path.names, Path.pieces, hb]; rfl
        rw [World.way, hnames]; rfl
      rw [hway]; rfl
    · have hmake := safe_makeNested hown _ hat dir.trimmed_trim rfl (Nat.le_refl _) (serves.route h)
      rw [World.way_trimmed] at hmake
      exact hmake.mono fun r gs hcleared =>
        ⟨hcleared.result_eq, hcleared.result_eq ▸ settled_of_cleared serves hcleared⟩
  · obtain ⟨error, hne, herror⟩ := exists_error_of_not_nameable (w := w) serves.up h
    have hb : dir.trimmed.bytes ≠ [] := by
      intro hb
      exact h ⟨by simp [hb, maxPathLength], by simp [hb, holdsNul]⟩
    refine ⟨.error error, fun hnil => absurd hnil hb, fun e fs hat => ?_⟩
    obtain ⟨rest, hrest⟩ := Path.exists_upTo_eq_cons dir.trimmed.bytes.length dir.trimmed
    rw [Path.ancestors, hrest]
    refine (safe_makeNested_error hat hb hne herror rest).mono ?_
    rintro _ gs ⟨rfl, hgs⟩
    exact ⟨rfl, hgs, fun loc hloc => absurd (serves.only loc hloc).1 h, fun hok => by cases hok⟩

theorem exists_safe_makeParent (serves : w.Serves dir) (hown : own ∈ w.outputs) {name : Name}
    (hname : Path.NormalName name) : ∃ result : Except CaseError Unit, ∀ e fs, w.At own e fs →
      (Task.makeParent (dir.join ⟨name⟩)).Safe (w.terms own)
        (fun r gs => r = result ∧ w.Settled dir own e (result = .ok ()) gs) fs := by
  obtain ⟨result, hnil, hmake⟩ := exists_safe_makeNested serves hown
  refine ⟨result.mapError (.io dir.trimmed), fun e fs hat => ?_⟩
  have hnested := hmake e fs hat
  rw [Task.makeParent, Path.parent?_join hname]
  simp only []
  by_cases hb : dir.trimmed.bytes = []
  · rw [if_pos hb]
    have hok := hnil hb
    subst hok
    have hempty : dir.trimmed.ancestors = [dir.trimmed] := by rw [Path.ancestors, hb]; rfl
    rw [hempty, Task.makeNested, if_pos hb] at hnested
    exact safe_done fun gs hr => ⟨rfl, (hnested gs hr).2.imp fun _ => rfl⟩
  · rw [if_neg hb]
    refine hnested.bind ?_
    rintro r gs ⟨rfl, hsettled⟩
    cases r with
    | ok _ => exact safe_done fun hs hr => ⟨rfl, (hsettled.of_rely hr).imp fun _ => rfl⟩
    | error error =>
        exact safe_done fun hs hr => ⟨rfl, (hsettled.of_rely hr).imp fun hok => by cases hok⟩

/-! ## Opening and writing the output -/

theorem at_put_file {name : Name} (content : Bytes) (executable : Bool)
    (h : w.Settled dir (name :: w.goal dir) e True fs) (hown : name :: w.goal dir ∈ w.outputs)
    (hname : EntryName name) (old : e ≠ some .directory) :
    (w.terms (name :: w.goal dir)).guarantee fs
        (fs.put (name :: w.goal dir) (.file content executable)) ∧
      w.Settled dir (name :: w.goal dir) (some (.file content executable)) True
        (fs.put (name :: w.goal dir) (.file content executable)) := by
  have hput := fs.entry?_put (List.cons_ne_nil name (w.goal dir)) (.file content executable)
  have hno : fs.entry? (name :: w.goal dir) ≠ some .directory := h.there.own_eq ▸ old
  have hkept (loc : Location) (hd : fs.entry? loc = some .directory) :
      entry? (fs.put (name :: w.goal dir) (.file content executable)) loc = some .directory := by
    rw [hput, if_neg, hd]
    rintro rfl
    exact hno hd
  have holds := h.there.holds.put hname (h.directory trivial) hno
    (.inr ⟨⟨content, executable, rfl⟩, hown⟩)
  refine ⟨fun _ => ⟨holds, hkept, fun loc _ hne => ?_⟩, ⟨holds, ?_⟩, ?_, ?_⟩
  · rw [hput, if_neg hne]
  · rw [hput, if_pos rfl]
  · exact fun loc hloc => hkept loc (h.places loc hloc)
  · exact fun _ loc hloc => hkept loc (h.way trivial loc hloc)

/-- An output as it was at first, or as somebody who opened it has left it. -/
def Reopened (e : Option Entry) (executable : Bool) (found : Option Entry) : Prop :=
  found = e ∨ ∃ content, found = some (.file content executable)

theorem Reopened.ne_directory {executable : Bool} {found : Option Entry}
    (h : Reopened e executable found) (old : e ≠ some .directory) : found ≠ some .directory := by
  rcases h with rfl | ⟨content, rfl⟩
  · exact old
  · simp

/-- Opening an output fails the same way for all time, or opens it with the mode that
it has had since it was first opened. -/
theorem create_settled (w : World) (dir : Path) {name : Name} (hname : Path.NormalName name)
    (e : Option Entry) :
    (∃ error, ∀ fs, w.Settled dir (name :: w.goal dir) e True fs →
      (dir.join ⟨name⟩).access (fs.create (dir.join ⟨name⟩)) = .error error) ∨
    (EntryName name ∧ (dir.join ⟨name⟩).bytes.length < maxPathLength ∧
      holdsNul (dir.join ⟨name⟩).bytes = false ∧ e ≠ some .directory ∧
      ∃ executable, ∀ found fs, Reopened e executable found →
        w.Settled dir (name :: w.goal dir) found True fs →
        (dir.join ⟨name⟩).access (fs.create (dir.join ⟨name⟩)) =
          .ok (name :: w.goal dir, fs.put (name :: w.goal dir) (.file [] executable))) := by
  by_cases nul : holdsNul (dir.join ⟨name⟩).bytes = true
  · exact .inl ⟨nulInPath, fun fs _ => by rw [Path.access, if_pos nul]⟩
  have nul := Bool.of_not_eq_true nul
  by_cases long : maxPathLength ≤ (dir.join ⟨name⟩).bytes.length
  · refine .inl ⟨.os .nameTooLong, fun fs h => ?_⟩
    rw [Path.access_of_not_holdsNul nul, create_join h.there.holds.free hname, if_pos long]
    rfl
  have hcreate {found : Option Entry} (fs : FileSystem)
      (h : w.Settled dir (name :: w.goal dir) found True fs) :
      (dir.join ⟨name⟩).access (fs.create (dir.join ⟨name⟩)) =
        (fs.openIn (w.goal dir) name).mapError .os := by
    rw [Path.access_of_not_holdsNul nul, create_join h.there.holds.free hname, if_neg long,
      h.enter trivial]
    rfl
  by_cases hlong : maxNameLength < name.length
  · refine .inl ⟨.os .nameTooLong, fun fs h => ?_⟩
    rw [hcreate fs h, openIn, if_pos hlong]
    rfl
  have hentry := entryName_of_join hname nul (Nat.not_lt.mp hlong)
  have hopen (error : Errno) (herror : ∀ fs, w.Settled dir (name :: w.goal dir) e True fs →
      fs.openIn (w.goal dir) name = .error error) :
      ∃ error, ∀ fs, w.Settled dir (name :: w.goal dir) e True fs →
        (dir.join ⟨name⟩).access (fs.create (dir.join ⟨name⟩)) = .error error :=
    ⟨.os error, fun fs h => by rw [hcreate fs h, herror fs h]; rfl⟩
  cases e with
  | none =>
      refine .inr ⟨hentry, Nat.not_le.mp long, nul, by simp, false, fun found fs hfound h => ?_⟩
      rw [hcreate fs h, openIn, if_neg hlong, h.there.own_eq]
      rcases hfound with rfl | ⟨written, rfl⟩ <;> rfl
  | some e =>
      cases e with
      | file content executable =>
          refine .inr ⟨hentry, Nat.not_le.mp long, nul, by simp, executable,
            fun found fs hfound h => ?_⟩
          rw [hcreate fs h, openIn, if_neg hlong, h.there.own_eq]
          rcases hfound with rfl | ⟨written, rfl⟩ <;> rfl
      | directory =>
          exact .inl (hopen .isDirectory fun fs h => by rw [openIn, if_neg hlong, h.there.own_eq])
      | link target =>
          exact .inl (hopen .tooManyLinks fun fs h => by rw [openIn, if_neg hlong, h.there.own_eq])

theorem exists_safe_openOutput (serves : w.Serves dir) {name : Name}
    (hown : name :: w.goal dir ∈ w.outputs) (hname : Path.NormalName name) (e : Option Entry) :
    (∃ error, ∀ fs, w.At (name :: w.goal dir) e fs →
      (Task.openOutput (dir.join ⟨name⟩)).Safe (w.terms (name :: w.goal dir))
        (fun r gs => r = .error error ∧ w.Settled dir (name :: w.goal dir) e False gs) fs) ∨
    (EntryName name ∧ (dir.join ⟨name⟩).bytes.length < maxPathLength ∧
      holdsNul (dir.join ⟨name⟩).bytes = false ∧
      ∃ executable, ∀ found fs, Reopened e executable found →
        w.At (name :: w.goal dir) found fs →
        (Task.openOutput (dir.join ⟨name⟩)).Safe (w.terms (name :: w.goal dir))
          (fun r gs => r = .ok (name :: w.goal dir) ∧
            w.Settled dir (name :: w.goal dir) (some (.file [] executable)) True gs) fs) := by
  obtain ⟨result, hparent⟩ := exists_safe_makeParent serves hown hname
  cases result with
  | error error =>
      refine .inl ⟨error, fun fs hat => (hparent e fs hat).bind ?_⟩
      rintro _ gs ⟨rfl, hsettled⟩
      exact safe_done fun hs hr => ⟨rfl, (hsettled.of_rely hr).imp False.elim⟩
  | ok made =>
      rcases create_settled w dir hname e with ⟨error, herror⟩ | ⟨hentry, short, nul, old, executable, hopen⟩
      · refine .inl ⟨.io (dir.join ⟨name⟩) error, fun fs hat => ?_⟩
        refine (hparent e fs hat).bind ?_
        rintro _ gs ⟨rfl, hsettled⟩
        refine safe_once fun hs hr => ?_
        have hhs := (hsettled.of_rely hr).imp fun _ : True => rfl
        rw [herror hs hhs]
        exact ⟨hhs.there.idle, fun ks hrest => ⟨rfl, (hhs.of_rely hrest).imp False.elim⟩⟩
      · refine .inr ⟨hentry, short, nul, executable, fun found fs hfound hat => ?_⟩
        refine (hparent found fs hat).bind ?_
        rintro _ gs ⟨rfl, hsettled⟩
        refine safe_once fun hs hr => ?_
        have hhs := (hsettled.of_rely hr).imp fun _ : True => rfl
        rw [hopen found hs hfound hhs]
        obtain ⟨hwrites, hput⟩ :=
          at_put_file [] executable hhs hown hentry (hfound.ne_directory old)
        exact ⟨hwrites, fun ks hrest => ⟨rfl, hput.of_rely hrest⟩⟩

theorem safe_fill {name : Name} {executable : Bool}
    (hown : name :: w.goal dir ∈ w.outputs) (hentry : EntryName name) (output : Bytes)
    (h : w.Settled dir (name :: w.goal dir) (some (.file [] executable)) True fs) :
    (Task.once fun fs => ((), fs.fill (name :: w.goal dir) output)).Safe
      (w.terms (name :: w.goal dir)) (fun _ gs => w.Settled dir (name :: w.goal dir)
        (some (.file output executable)) True gs) fs := by
  refine safe_once fun gs hr => ?_
  have hgs := h.of_rely hr
  obtain ⟨hwrites, hput⟩ := at_put_file output executable hgs hown hentry (by simp)
  rw [fill, hgs.there.own_eq]
  exact ⟨hwrites, fun ks hrest => hput.of_rely hrest⟩

/-! ## Comparing it -/

theorem read_settled {name : Name} {content : Bytes} {executable : Bool} (hentry : EntryName name)
    (short : (dir.join ⟨name⟩).bytes.length < maxPathLength)
    (nul : holdsNul (dir.join ⟨name⟩).bytes = false)
    (h : w.Settled dir (name :: w.goal dir) (some (.file content executable)) True fs) :
    (dir.join ⟨name⟩).access (fs.read (dir.join ⟨name⟩)) = .ok content := by
  rw [Path.access_of_not_holdsNul nul, read_join h.there.holds.free hentry.toNormalName,
    if_neg (Nat.not_le.mpr short), h.enter trivial]
  show Except.mapError IoError.os (fs.readIn (w.goal dir) name) = _
  rw [readIn, if_neg (Nat.not_lt.mpr hentry.short), h.there.own_eq]
  rfl

/-- A file that is no output is read the same by all cases. -/
theorem exists_read (w : World) {place : Location} {q : Path} {name : Name}
    (henter : w.origin.enter (start w.origin.here q) q.names = .ok place)
    (hout : name :: place ∉ w.outputs) (hname : Path.NormalName name) :
    ∃ result, ∀ fs, w.Holds fs → fs.Stands w.places →
      (q.join ⟨name⟩).access (fs.read (q.join ⟨name⟩)) = result := by
  have hread (fs : FileSystem) (h : w.Holds fs) : fs.read (q.join ⟨name⟩) =
      if maxPathLength ≤ (q.join ⟨name⟩).bytes.length then .error .nameTooLong
      else fs.readIn place name := by
    rw [read_join h.free hname, h.enter henter]
    rfl
  obtain ⟨answer, hanswer⟩ : ∃ answer, ∀ fs, w.Holds fs → fs.Stands w.places →
      fs.readIn place name = answer := by
    by_cases hmem : name :: place ∈ w.places
    · refine ⟨if maxNameLength < name.length then .error .nameTooLong else .error .isDirectory, ?_⟩
      intro fs _ hs
      rw [readIn, hs _ hmem]
    · exact ⟨w.origin.readIn place name, fun fs h _ => by
        rw [readIn, readIn, h.unchanged hout hmem]⟩
  exact ⟨_, fun fs h hs => by rw [hread fs h, hanswer fs h hs]⟩

/-- The comparison of what was written with what is expected comes to the same end
for all cases. -/
theorem exists_safe_comparing {c : TestCase} {name : Name} (executable : Bool)
    (hentry : EntryName name) (hactual : c.artifacts.actual = dir.join ⟨name⟩)
    (short : (dir.join ⟨name⟩).bytes.length < maxPathLength)
    (nul : holdsNul (dir.join ⟨name⟩).bytes = false) {expected : Except IoError Bytes}
    (hexpected : ∀ fs, w.Holds fs → fs.Stands w.places →
      c.artifacts.expected.access (fs.read c.artifacts.expected) = expected) (output : Bytes) :
    ∃ comparison, ∀ fs, w.Settled dir (name :: w.goal dir) (some (.file output executable)) True fs →
      c.comparing.Safe (w.terms (name :: w.goal dir)) (fun r gs => r = comparison ∧
        w.Settled dir (name :: w.goal dir) (some (.file output executable)) True gs) fs := by
  have hread (fs : FileSystem)
      (h : w.Settled dir (name :: w.goal dir) (some (.file output executable)) True fs) :
      (Task.read c.artifacts.expected).Safe (w.terms (name :: w.goal dir))
        (fun r gs => r = expected.mapError (.io c.artifacts.expected) ∧
          w.Settled dir (name :: w.goal dir) (some (.file output executable)) True gs) fs :=
    safe_look h.there fun gs hr hgs hs hrest => by
      have hsettled := h.of_rely hr
      exact ⟨by rw [hexpected gs hgs.holds hsettled.places], hsettled.of_rely hrest⟩
  cases expected with
  | error error =>
      refine ⟨.error (.io c.artifacts.expected error), fun fs h => ?_⟩
      refine (hread fs h).bind ?_
      rintro _ gs ⟨rfl, hsettled⟩
      exact safe_done fun hs hr => ⟨rfl, hsettled.of_rely hr⟩
  | ok expected =>
      refine ⟨.ok (Content.compare output expected), fun fs h => ?_⟩
      refine (hread fs h).bind ?_
      rintro _ gs ⟨rfl, hsettled⟩
      have hback : (Task.read c.artifacts.actual).Safe (w.terms (name :: w.goal dir))
          (fun r gs => r = .ok output ∧
            w.Settled dir (name :: w.goal dir) (some (.file output executable)) True gs) gs :=
        safe_look hsettled.there fun hs hr hhs ks hrest => by
          have hthen := hsettled.of_rely hr
          exact ⟨by rw [hactual, read_settled hentry short nul hthen]; rfl, hthen.of_rely hrest⟩
      refine hback.bind ?_
      rintro _ hs ⟨rfl, hthen⟩
      exact safe_done fun ks hr => ⟨rfl, hthen.of_rely hr⟩

/-! ## A whole case -/

/-- What a case comes to, for its report and for its output, and comes to again when
its output is already what it makes of it. -/
theorem exists_safe_task (script : Script) {c : TestCase} {name : Name}
    (serves : (script c.input).isOk = true → w.Serves dir)
    (hown : name :: w.goal dir ∈ w.outputs) (hname : Path.NormalName name)
    (hactual : c.artifacts.actual = dir.join ⟨name⟩)
    (apart : ¬c.artifacts.actual.Same c.artifacts.expected) {expected : Except IoError Bytes}
    (hexpected : ∀ fs, w.Holds fs → fs.Stands w.places →
      c.artifacts.expected.access (fs.read c.artifacts.expected) = expected) (e : Option Entry) :
    ∃ report after, ∀ found fs, found = e ∨ found = after → w.At (name :: w.goal dir) found fs →
      (c.task script).Safe (w.terms (name :: w.goal dir)) (fun r gs => r = report ∧
        w.At (name :: w.goal dir) after gs ∧
        ((script c.input).isOk = true → gs.Stands w.places)) fs := by
  unfold TestCase.task
  simp only [if_neg apart]
  cases hscript : script c.input with
  | error error =>
      refine ⟨c.report (.failed (.ofError error)) none, e, fun found fs hfound hat => ?_⟩
      obtain rfl : found = e := hfound.elim id id
      exact safe_done fun gs hr => ⟨rfl, hat.of_rely hr, fun hok => by cases hok⟩
  | ok made =>
      obtain ⟨output, code⟩ := made
      rw [hactual]
      rcases exists_safe_openOutput (serves (by rw [hscript]; rfl)) hown hname e with
        ⟨error, hopen⟩ | ⟨hentry, short, nul, executable, hopen⟩
      · refine ⟨c.report (.failed (.ofError error)) none, e, fun found fs hfound hat => ?_⟩
        obtain rfl : found = e := hfound.elim id id
        refine (hopen fs hat).bind ?_
        rintro _ gs ⟨rfl, hsettled⟩
        exact safe_done fun hs hr =>
          ⟨rfl, (hsettled.of_rely hr).there, fun _ => (hsettled.of_rely hr).places⟩
      · obtain ⟨comparison, hcompare⟩ := exists_safe_comparing executable hentry hactual short nul
          hexpected output
        refine ⟨c.report (.ofComparison comparison) code, some (.file output executable),
          fun found fs hfound hat => ?_⟩
        refine (hopen found fs (hfound.imp_right fun h => ⟨output, h⟩) hat).bind ?_
        rintro _ gs ⟨rfl, hsettled⟩
        refine (safe_fill hown hentry output hsettled).bind fun _ hs hfilled => ?_
        refine (hcompare hs hfilled).bind ?_
        rintro _ ks ⟨rfl, hsame⟩
        exact safe_done fun ls hr =>
          ⟨rfl, (hsame.of_rely hr).there, fun _ => (hsame.of_rely hr).places⟩

end Outputs

end GoldenFiles
