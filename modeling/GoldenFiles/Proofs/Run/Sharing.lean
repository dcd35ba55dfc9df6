import GoldenFiles.Proofs.FileSystem.Shared
import GoldenFiles.Proofs.Run.Pool

/-!
# Writers that share a directory

The calls by which one case makes the directories of its output and writes it are
safe among any number of cases that do the same with outputs of their own. Each
case relies on the others to leave its output alone and the directories in place,
and that is what it guarantees them in turn.

Every lemma here says of one task of a case that it comes to the same end
wherever it starts and whatever happens between its calls. Two things make this
less than obvious. Making directories may find a place missing that is there at
the next call, so it may fail at first and go up, or not: `Tried` keeps apart what
one attempt can come to, and `safe_makeNested` says that it makes no difference.
And what a task fails with has to be known before it starts, because on the way
it may see other things: that is `World.answer`.
-/

namespace GoldenFiles

open FileSystem GoldenFiles.Task

namespace FileSystem.World

/-- What the others leave to the writer of an output. -/
structure Spares (w : World) (own : Location) (fs gs : FileSystem) : Prop where
  holds : w.Holds gs
  kept : ∀ loc, fs.entry? loc = some .directory → gs.entry? loc = some .directory
  own_eq : gs.entry? own = fs.entry? own

/-- What the writer of an output leaves to the others. -/
structure Writes (w : World) (own : Location) (fs gs : FileSystem) : Prop where
  holds : w.Holds gs
  kept : ∀ loc, fs.entry? loc = some .directory → gs.entry? loc = some .directory
  others : ∀ loc ∈ w.outputs, loc ≠ own → gs.entry? loc = fs.entry? loc

/-- The terms on which the writer of an output takes part. -/
def terms (w : World) (own : Location) : Terms where
  rely fs gs := w.Holds fs → w.Spares own fs gs
  guarantee fs gs := w.Holds fs → w.Writes own fs gs
  refl _ := fun h => ⟨h, fun _ hd => hd, rfl⟩
  trans hfirst hnext h :=
    have hg := hfirst h
    have hh := hnext hg.holds
    ⟨hh.holds, fun loc hd => hh.kept loc (hg.kept loc hd), hh.own_eq.trans hg.own_eq⟩

theorem terms_le (w : World) {own other : Location} (hout : own ∈ w.outputs)
    (hne : own ≠ other) : (w.terms other).guarantee ≤ (w.terms own).rely :=
  fun _ _ hg h => ⟨(hg h).holds, (hg h).kept, (hg h).others own hout hne⟩

/-- A file system that the writers may have come to, with the entry of one output. -/
structure At (w : World) (own : Location) (e : Option Entry) (fs : FileSystem) : Prop where
  holds : w.Holds fs
  own_eq : fs.entry? own = e

variable {w : World} {own : Location} {e : Option Entry} {fs gs : FileSystem}
  {places : List Location}

theorem At.of_rely (h : w.At own e fs) (hr : (w.terms own).rely fs gs) : w.At own e gs :=
  ⟨(hr h.holds).holds, (hr h.holds).own_eq.trans h.own_eq⟩

theorem At.stands (h : w.At own e fs) (hr : (w.terms own).rely fs gs) (hs : fs.Stands places) :
    gs.Stands places := fun loc hloc => (hr h.holds).kept loc (hs loc hloc)

theorem At.idle (h : w.At own e fs) : (w.terms own).guarantee fs fs :=
  fun _ => ⟨h.holds, fun _ hd => hd, fun _ _ _ => rfl⟩

/-- What making the directories on a way comes to, sooner or later. -/
def answer (w : World) (way : List Location) : Except IoError Unit :=
  match w.origin.refusal way with
  | none => .ok ()
  | some e => .error (.os e)

/-- The directories on a way have been made as far as they can be. -/
structure Cleared (w : World) (own : Location) (e : Option Entry) (way : List Location)
    (result : Except IoError Unit) (fs : FileSystem) : Prop where
  there : w.At own e fs
  result_eq : result = w.answer way
  stands : fs.Stands (w.origin.clear way)

theorem Cleared.of_rely {way : List Location} {result : Except IoError Unit}
    (h : w.Cleared own e way result fs) (hr : (w.terms own).rely fs gs) :
    w.Cleared own e way result gs := ⟨h.there.of_rely hr, h.result_eq, h.there.stands hr h.stands⟩

theorem cleared_of_stands {way : List Location} (h : w.At own e fs) (all : fs.Stands way) :
    w.Cleared own e way (.ok ()) fs := by
  have hbarred := h.holds.barred_eq_nil all
  refine ⟨h, ?_, ?_⟩
  · rw [answer, refusal_eq_none_iff.mpr hbarred]
  · rwa [clear_of_barred_eq_nil hbarred]

theorem cleared_of_refused {way : List Location} {n : Errno} (h : w.At own e fs)
    (why : w.origin.refusal way = some n) (before : fs.Stands (w.origin.clear way)) :
    w.Cleared own e way (.error (.os n)) fs := ⟨h, by rw [answer, why], before⟩

end FileSystem.World

section Tasks

variable {w : World} {own : Location} {e : Option Entry} {fs : FileSystem} {p parent : Path}
  {above : List Name} {last : Name}

theorem safe_look {α : Type} {f : FileSystem → α} {post : α → FileSystem → Prop}
    (h : w.At own e fs) (hf : ∀ gs, (w.terms own).rely fs gs → w.At own e gs →
      ∀ hs, (w.terms own).rely gs hs → post (f gs) hs) : (look f).Safe (w.terms own) post fs :=
  safe_once fun gs hr => ⟨(h.of_rely hr).idle, hf gs hr (h.of_rely hr)⟩

/-! ## Making the directories -/

theorem isDirectory_iff_of_at (h : w.At own e fs) (hb : p.bytes ≠ [])
    (short : p.bytes.length < maxPathLength) :
    fs.isDirectory p = true ↔ fs.Stands (w.way p) := by
  rw [isDirectory_iff h.holds.wf h.holds.free hb short, h.holds.here_eq]
  rfl

theorem safe_unlessDirectory_there (h : w.At own e fs) (hb : p.bytes ≠ []) (route : w.Route p)
    (all : fs.Stands (w.way p)) (error : IoError) :
    (unlessDirectory p error).Safe (w.terms own) (w.Cleared own e (w.way p)) fs := by
  have hlook : (look (·.isDirectory p)).Safe (w.terms own)
      (fun is gs => is = true ∧ w.At own e gs ∧ gs.Stands (w.way p)) fs := by
    refine safe_look h fun gs hr hat hs hrest => ?_
    have hstands := h.stands hr all
    exact ⟨(isDirectory_iff_of_at hat hb route.short).mpr hstands, hat.of_rely hrest,
      hat.stands hrest hstands⟩
  refine hlook.bind ?_
  rintro _ gs ⟨rfl, hat, hstands⟩
  refine safe_done fun hs hr => ?_
  exact World.cleared_of_stands (hat.of_rely hr) (hat.stands hr hstands)

theorem safe_unlessDirectory_refused (h : w.At own e fs) (hb : p.bytes ≠ []) (route : w.Route p)
    {n : Errno} (why : w.origin.refusal (w.way p) = some n)
    (before : fs.Stands (w.origin.clear (w.way p))) :
    (unlessDirectory p (.os n)).Safe (w.terms own) (w.Cleared own e (w.way p)) fs := by
  have hlook : (look (·.isDirectory p)).Safe (w.terms own)
      (fun is gs => is = false ∧ w.At own e gs ∧ gs.Stands (w.origin.clear (w.way p))) fs := by
    refine safe_look h fun gs hr hat hs hrest => ?_
    refine ⟨Bool.eq_false_iff.mpr fun his => ?_, hat.of_rely hrest,
      hat.stands hrest (h.stands hr before)⟩
    have hbarred := hat.holds.barred_eq_nil ((isDirectory_iff_of_at hat hb route.short).mp his)
    rw [refusal_eq_none_iff.mpr hbarred] at why
    cases why
  refine hlook.bind ?_
  rintro _ gs ⟨rfl, hat, hstands⟩
  refine safe_done fun hs hr => ?_
  exact World.cleared_of_refused (hat.of_rely hr) why (hat.stands hr hstands)

/-- What one attempt to make a directory may have come to, some time after. -/
inductive Tried (w : World) (own : Location) (e : Option Entry) (p parent : Path)
    (before : FileSystem) : Except IoError Unit → FileSystem → Prop where
  | made {fs : FileSystem} (h : w.At own e fs) (all : fs.Stands (w.way p)) :
      Tried w own e p parent before (.ok ()) fs
  | there {fs : FileSystem} (h : w.At own e fs) (all : fs.Stands (w.way p)) :
      Tried w own e p parent before (.error (.os .fileExists)) fs
  | refused {fs : FileSystem} (n : Errno) (ne : n ≠ .noEntry) (h : w.At own e fs)
      (why : w.origin.refusal (w.way p) = some n) (stands : fs.Stands (w.origin.clear (w.way p))) :
      Tried w own e p parent before (.error (.os n)) fs
  | missing {fs : FileSystem} (h : w.At own e fs) (gap : ¬before.Stands (w.way parent))
      (long : ∀ loc rest, w.origin.barred (w.way parent) = loc :: rest → tooLong loc = true) :
      Tried w own e p parent before (.error (.os .noEntry)) fs

theorem safe_attempt (h : w.At own e fs) (hown : own ∈ w.outputs) (route : w.Route p)
    (cut : Path.Cut p parent above last) :
    (Task.attempt fun fs => (fs.makeDirectory p).mapError .os).Safe (w.terms own)
      (Tried w own e p parent fs) fs := by
  refine safe_once fun gs hr => ?_
  have hat := h.of_rely hr
  have htry := FileSystem.attempt hat.holds route cut
  beta_reduce
  cases hmake : gs.makeDirectory p with
  | ok made =>
      simp only [Except.mapError]
      rw [hmake] at htry
      cases htry with
      | made _ holds kept others all =>
          have hmade : w.At own e made := ⟨holds, (others own hown).trans hat.own_eq⟩
          exact ⟨fun _ => ⟨holds, kept, fun loc hloc _ => others loc hloc⟩,
            fun hs hrest => .made (hmade.of_rely hrest) (hmade.stands hrest all)⟩
  | error n =>
      simp only [Except.mapError]
      rw [hmake] at htry
      refine ⟨hat.idle, fun hs hrest => ?_⟩
      have hthen := hat.of_rely hrest
      cases htry with
      | there all => exact .there hthen (hat.stands hrest all)
      | refused _ ne why before => exact .refused n ne hthen why (hat.stands hrest before)
      | missing absent long =>
          refine .missing hthen (fun stands => ?_) long
          obtain ⟨loc, hloc, hnone⟩ := absent
          rw [h.stands hr stands loc hloc] at hnone
          cases hnone

/-- An attempt is settled by a look at what is there, unless something is missing. -/
theorem safe_attempt_bind {next : Except IoError Unit → Task (Except IoError Unit)}
    (h : w.At own e fs) (hown : own ∈ w.outputs) (hb : p.bytes ≠ []) (route : w.Route p)
    (cut : Path.Cut p parent above last) (hok : next (.ok ()) = .done (.ok ()))
    (herror : ∀ error, error ≠ .os .noEntry → next (.error error) = unlessDirectory p error)
    (hmissing : ∀ gs, w.At own e gs → ¬fs.Stands (w.way parent) →
      (∀ loc rest, w.origin.barred (w.way parent) = loc :: rest → tooLong loc = true) →
      (next (.error (.os .noEntry))).Safe (w.terms own) (w.Cleared own e (w.way p)) gs) :
    ((Task.attempt fun fs => (fs.makeDirectory p).mapError .os).bind next).Safe (w.terms own)
      (w.Cleared own e (w.way p)) fs := by
  refine (safe_attempt h hown route cut).bind fun result gs htried => ?_
  cases htried with
  | made h all =>
      rw [hok]
      exact safe_done fun gs hr => World.cleared_of_stands (h.of_rely hr) (h.stands hr all)
  | there h all =>
      rw [herror _ (by simp)]
      exact safe_unlessDirectory_there h hb route all _
  | refused n ne h why stands =>
      rw [herror _ (by simpa using ne)]
      exact safe_unlessDirectory_refused h hb route why stands
  | missing h gap long => exact hmissing gs h gap long

/-- Where nothing but a long name is in the way of the directories above, the whole
way is barred as they are. -/
theorem cleared_of_above {result : Except IoError Unit} {n : Errno} (route : w.Route p)
    (cut : Path.Cut p parent above last)
    (long : ∀ loc rest, w.origin.barred (w.way parent) = loc :: rest → tooLong loc = true)
    (why : w.origin.refusal (w.way parent) = some n)
    (h : w.Cleared own e (w.way parent) result fs) : w.Cleared own e (w.way p) result fs := by
  have hway := World.way_of_cut (w := w) cut (route.last_ne cut)
  cases hb : w.origin.barred (w.way parent) with
  | nil =>
      rw [refusal_eq_none_iff.mpr hb] at why
      cases why
  | cons loc rest =>
      obtain ⟨hwhy, hclear⟩ := refusal_concat_of_barred (last :: w.goal parent) hb
      have hanswer : w.answer (w.way parent) = w.answer (w.way p) := by
        rw [World.answer, World.answer, hway, hwhy, refusal, hb]
        simp [long loc rest hb]
      exact ⟨h.there, h.result_eq.trans hanswer, hway ▸ hclear.symm ▸ h.stands⟩

theorem safe_makeNested (hown : own ∈ w.outputs) (names : List Name) :
    ∀ {fs : FileSystem} {p : Path} {n : Nat}, w.At own e fs → p.Trim → p.names = names →
      p.bytes.length ≤ n → w.Route p → (Task.makeNested (Path.ancestors.upTo n p)).Safe
        (w.terms own) (w.Cleared own e (w.way p)) fs := by
  induction names using List.reverseRecOn with
  | nil =>
      intro fs p n hat trim hn hlen route
      have hall (gs : FileSystem) : gs.Stands (w.way p) := by
        rw [World.way, hn]
        exact fun loc hloc => by cases hloc
      obtain ⟨rest, hrest⟩ := Path.exists_upTo_eq_cons n p
      rw [hrest, Task.makeNested]
      split
      · exact safe_done fun gs hr => World.cleared_of_stands (hat.of_rely hr) (hall gs)
      · next hb =>
          have htry : (Task.attempt fun fs => p.access (fs.makeDirectory p)).Safe (w.terms own)
              (fun result gs => result = .error (.os .fileExists) ∧ w.At own e gs) fs := by
            refine safe_once fun gs hr => ?_
            have hgs := hat.of_rely hr
            obtain ⟨-, hmake, -⟩ := making_nameless gs trim hn hb
            beta_reduce
            rw [Path.access_of_not_holdsNul route.nul, hmake]
            exact ⟨hgs.idle, fun hs hrest => ⟨rfl, hgs.of_rely hrest⟩⟩
          refine htry.bind ?_
          rintro _ gs ⟨rfl, hgs⟩
          exact safe_unlessDirectory_there hgs hb route (hall gs) _
  | append_singleton above last ih =>
      intro fs p n hat trim hn hlen route
      obtain ⟨parent, cut⟩ := trim.cut hn
      obtain ⟨m, hm, hup⟩ := cut.upTo_eq hlen
      have hb : p.bytes ≠ [] := List.length_pos_iff.mp (by have := cut.shorter; omega)
      have haccess : (fun fs : FileSystem => p.access (fs.makeDirectory p)) =
          fun fs => (fs.makeDirectory p).mapError .os := by
        funext gs
        rw [Path.access_of_not_holdsNul route.nul]
      rw [hup, Task.makeNested, if_neg hb, haccess]
      refine safe_attempt_bind hat hown hb route cut rfl ?_ fun gs hgs _ long => ?_
      · intro error hne
        cases error with
        | described text => rfl
        | os condition => cases condition <;> first | exact absurd rfl hne | rfl
      · refine (ih hgs cut.trim cut.parent_names hm (route.of_cut cut)).bind ?_
        intro result hs hcleared
        cases hwhy : w.origin.refusal (w.way parent) with
        | some n =>
            have hresult : result = .error (.os n) := by
              rw [hcleared.result_eq, World.answer, hwhy]
            subst hresult
            exact safe_done fun ks hr =>
              (cleared_of_above route cut long hwhy hcleared).of_rely hr
        | none =>
            -- all directories above are there now, so the second attempt misses nothing
            have hresult : result = .ok () := by
              rw [hcleared.result_eq, World.answer, hwhy]
            subst hresult
            have hstands := hcleared.stands
            rw [clear_of_barred_eq_nil (refusal_eq_none_iff.mp hwhy)] at hstands
            exact safe_attempt_bind hcleared.there hown hb route cut rfl (fun _ _ => rfl)
              fun _ _ gap => absurd hstands gap

end Tasks

end GoldenFiles
