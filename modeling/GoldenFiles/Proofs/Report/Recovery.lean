import GoldenFiles.Proofs.Decimal.Numeral
import GoldenFiles.Proofs.Json.Printing
import GoldenFiles.Proofs.Json.Reading
import GoldenFiles.Proofs.Report.Document
import Mathlib

/-!
# A document loses nothing

A summary is read back from its document level by level, as it is written: for
paths, reasons, verdicts, cases and rejected names there is a reader each, and
what is written for a value carries it, that is, has proper numbers and is read as
the value. Only durations are not read back: a document has them rounded.

So two summaries with one document differ in their durations at most, and since a
path that is not text has no document, none is written down as another one.
-/

namespace GoldenFiles

/-! ## Summaries without durations -/

def FailureReason.timeless : FailureReason → FailureReason
  | .timedOut _ => .timedOut .zero
  | reason => reason

def Verdict.timeless : Verdict → Verdict
  | .passed => .passed
  | .failed reason => .failed reason.timeless

def CaseReport.timeless (report : CaseReport) : CaseReport :=
  { report with verdict := report.verdict.timeless, elapsed := .zero }

/-- A summary with no time in place of every duration. -/
def Summary.timeless (s : Summary) : Summary :=
  { s with cases := s.cases.map CaseReport.timeless }

/-! ## Reading the parts of a document -/

namespace Json

/-- The text that a value is. -/
def text? : Json → Option String
  | .string text => some text
  | _ => none

/-- The natural number that a value is. -/
def natural? : Json → Option Nat
  | .number literal => literal.toNat?
  | _ => none

/-- The integer that a value is, if it is not null. -/
def integer? : Json → Option (Option Int)
  | .null => some none
  | .number literal => literal.toInt?.map some
  | _ => none

/-- The list that a value is. -/
def list? {α : Type} (read : Json → Option α) : Json → Option (List α)
  | .array items => items.mapM read
  | _ => none

/-- What is read from a member of an object. -/
def at? {α : Type} (document : Json) (key : String) (read : Json → Option α) : Option α :=
  (document.member? key).bind read

/-- A value that can be written down and is read as something. -/
structure Carries {α : Type} (document : Json) (read : Json → Option α) (a : α) : Prop where
  proper : document.Proper
  eq : read document = some a

end Json

def Path.ofJson? (document : Json) : Option Path := document.text?.map .ofString

def FailureReason.ofJson? (document : Json) : Option FailureReason := do
  match ← document.at? "kind" Json.text? with
  | "mismatch" =>
      return .mismatch
        { line := ← document.at? "line" Json.natural?
          expectedLines := ← document.at? "expected_lines" Json.natural?
          actualLines := ← document.at? "actual_lines" Json.natural? }
  | "launch" => return .launch (← document.at? "message" Json.text?)
  | "io" => return .io (← document.at? "message" Json.text?)
  | "timed_out" => return .timedOut .zero
  | _ => none

def Verdict.ofJson? (document : Json) : Option Verdict := do
  match ← document.at? "status" Json.text? with
  | "passed" => return .passed
  | "failed" => return .failed (← document.at? "reason" FailureReason.ofJson?)
  | _ => none

def CaseReport.ofJson? (document : Json) : Option CaseReport := do
  return {
    id := ⟨← document.at? "id" Json.text?⟩
    input := ← document.at? "input" Path.ofJson?
    artifacts :=
      { actual := ← document.at? "actual" Path.ofJson?
        expected := ← document.at? "expected" Path.ofJson? }
    verdict := ← document.at? "verdict" Verdict.ofJson?
    exitCode := ← document.at? "exit_code" Json.integer?
    elapsed := .zero }

def Rejected.ofJson? (document : Json) : Option Rejected := do
  return {
    path := ← document.at? "path" Path.ofJson?
    reason := ← document.at? "reason" Json.text? }

def Summary.ofJson? (document : Json) : Option Summary := do
  return {
    cases := ← document.at? "cases" (Json.list? CaseReport.ofJson?)
    rejected := ← document.at? "rejected" (Json.list? Rejected.ofJson?) }

/-- The summary that a text is a document of. -/
def Summary.ofDocument? (text : String) : Option Summary :=
  (Json.read? text.toList).bind Summary.ofJson?

/-! ## What is written for a value carries it -/

namespace Json

section Members

variable {α : Type} {key other : String} (v : Json) (members : List (String × Json))
  (read : Json → Option α)

@[simp] theorem at?_cons_self : (object ((key, v) :: members)).at? key read = read v := by
  rw [at?, member?, List.lookup_cons_self, Option.bind_some]

@[simp] theorem at?_cons_of_ne (h : key ≠ other) :
    (object ((other, v) :: members)).at? key read = (object members).at? key read := by
  rw [at?, member?, List.lookup_cons, beq_false_of_ne h]
  rfl

@[simp] theorem text?_string (text : String) : (string text).text? = some text := rfl

end Members

theorem carries_ofNat (n : Nat) : (ofNat n).Carries natural? n :=
  ⟨(proper_number_iff _).mpr (numeral_ofNat n), Nat.toNat?_repr n⟩

theorem carries_ofInt (code : Option Int) :
    ((code.map ofInt).getD .null).Carries integer? code := by
  cases code with
  | none => exact ⟨proper_null, rfl⟩
  | some n =>
      refine ⟨(proper_number_iff _).mpr (numeral_ofInt n), ?_⟩
      exact congrArg (Option.map some) (Int.toInt?_repr n)

@[simp] theorem proper_numeral (d : Duration) : (number d.numeral).Proper :=
  (proper_number_iff _).mpr d.isNumeral

theorem carries_array {α β : Type} {read : Json → Option β} {result : α → β} {xs : List α}
    {documents : List Json}
    (h : List.Forall₂ (fun x document => document.Carries read (result x)) xs documents) :
    (array documents).Carries (list? read) (xs.map result) := by
  induction h with
  | nil => exact ⟨(proper_array_iff _).mpr nofun, rfl⟩
  | @cons x document xs documents hx _ ih =>
      refine ⟨(proper_array_iff _).mpr (List.forall_mem_cons.mpr ⟨hx.proper, ?_⟩), ?_⟩
      · exact (proper_array_iff _).mp ih.proper
      · have hrest : documents.mapM read = some (xs.map result) := ih.eq
        rw [list?, List.mapM_cons, hx.eq, hrest]
        rfl

end Json

theorem FailureReason.carries (reason : FailureReason) :
    reason.toJson.Carries FailureReason.ofJson? reason.timeless := by
  cases reason with
  | mismatch m =>
      have hline := Json.carries_ofNat m.line
      have hexpected := Json.carries_ofNat m.expectedLines
      have hactual := Json.carries_ofNat m.actualLines
      refine ⟨(Json.proper_object_iff _).mpr ?_, ?_⟩
      · simp [hline.proper, hexpected.proper, hactual.proper]
      · simp [toJson, ofJson?, hline.eq, hexpected.eq, hactual.eq, timeless]
  | launch message | io message =>
      exact ⟨(Json.proper_object_iff _).mpr (by simp), rfl⟩
  | timedOut after =>
      exact ⟨(Json.proper_object_iff _).mpr (by simp), rfl⟩

theorem Verdict.carries (verdict : Verdict) :
    verdict.toJson.Carries Verdict.ofJson? verdict.timeless := by
  cases verdict with
  | passed => exact ⟨(Json.proper_object_iff _).mpr (by simp), rfl⟩
  | failed reason =>
      have hreason := reason.carries
      refine ⟨(Json.proper_object_iff _).mpr ?_, ?_⟩
      · simp [hreason.proper]
      · simp [toJson, ofJson?, hreason.eq, timeless]

theorem Path.carries {p : Path} {document : Json} (h : p.toJson? = some document) :
    p.IsText ∧ document.Carries Path.ofJson? p := by
  obtain ⟨text, htext, rfl⟩ := Option.map_eq_some_iff.mp h
  have hbytes := (Utf8.decode?_eq_some_iff ..).mp htext
  refine ⟨⟨text.toList, hbytes⟩, Json.proper_string text, ?_⟩
  exact congrArg some (congrArg Path.mk hbytes.symm)

theorem CaseReport.carries {report : CaseReport} {document : Json}
    (h : report.toJson? = some document) :
    report.IsText ∧ document.Carries CaseReport.ofJson? report.timeless := by
  unfold toJson? at h
  obtain ⟨input, hinput, h⟩ := Option.bind_eq_some_iff.mp h
  obtain ⟨actual, hactual, h⟩ := Option.bind_eq_some_iff.mp h
  obtain ⟨expected, hexpected, h⟩ := Option.bind_eq_some_iff.mp h
  obtain rfl := Option.some.inj h
  obtain ⟨tinput, hinput⟩ := Path.carries hinput
  obtain ⟨tactual, hactual⟩ := Path.carries hactual
  obtain ⟨texpected, hexpected⟩ := Path.carries hexpected
  have hverdict := report.verdict.carries
  have hcode := Json.carries_ofInt report.exitCode
  refine ⟨⟨tinput, tactual, texpected⟩, (Json.proper_object_iff _).mpr ?_, ?_⟩
  · simp [hinput.proper, hactual.proper, hexpected.proper, hverdict.proper,
      hcode.proper]
  · simp [ofJson?, hinput.eq, hactual.eq, hexpected.eq, hverdict.eq, hcode.eq, timeless]

theorem Rejected.carries {rejected : Rejected} {document : Json}
    (h : rejected.toJson? = some document) :
    rejected.path.IsText ∧ document.Carries Rejected.ofJson? rejected := by
  unfold toJson? at h
  obtain ⟨path, hpath, h⟩ := Option.bind_eq_some_iff.mp h
  obtain rfl := Option.some.inj h
  obtain ⟨tpath, hpath⟩ := Path.carries hpath
  refine ⟨tpath, (Json.proper_object_iff _).mpr ?_, ?_⟩
  · simp [hpath.proper]
  · simp [ofJson?, hpath.eq]

theorem forall₂_of_mapM {α β : Type} {f : α → Option β} {items : List α} {results : List β}
    (h : items.mapM f = some results) : List.Forall₂ (fun a b => f a = some b) items results := by
  induction items generalizing results with
  | nil => exact Option.some.inj h ▸ .nil
  | cons item items ih =>
      rw [List.mapM_cons] at h
      obtain ⟨b, hb, h⟩ := Option.bind_eq_some_iff.mp h
      obtain ⟨bs, hbs, h⟩ := Option.bind_eq_some_iff.mp h
      exact Option.some.inj h ▸ .cons hb (ih hbs)

namespace Summary

/-- The paths of a summary are text. -/
structure IsText (s : Summary) : Prop where
  cases : ∀ report ∈ s.cases, report.IsText
  rejected : ∀ rejected ∈ s.rejected, rejected.path.IsText

variable {s : Summary}

theorem carries {document : Json} (h : s.toJson? = some document) :
    s.IsText ∧ document.Carries ofJson? s.timeless := by
  unfold toJson? at h
  obtain ⟨cases, hcases, h⟩ := Option.bind_eq_some_iff.mp h
  obtain ⟨rejected, hrejected, h⟩ := Option.bind_eq_some_iff.mp h
  obtain rfl := Option.some.inj h
  obtain ⟨tcases, hcases⟩ := (List.forall₂_and_left ..).mp
    ((forall₂_of_mapM hcases).imp fun _ _ h => CaseReport.carries h)
  obtain ⟨trejected, hrejected⟩ := (List.forall₂_and_left ..).mp
    ((forall₂_of_mapM hrejected).imp fun _ _ h => Rejected.carries h)
  have cases_carry := Json.carries_array hcases
  have rejected_carry : (Json.array rejected).Carries (Json.list? Rejected.ofJson?)
      (s.rejected.map id) := Json.carries_array hrejected
  refine ⟨⟨tcases, trejected⟩, (Json.proper_object_iff _).mpr ?_, ?_⟩
  · simp [(Json.carries_ofNat _).proper, cases_carry.proper, rejected_carry.proper]
  · simp [ofJson?, cases_carry.eq, rejected_carry.eq, timeless]

/-- What a document says about a run is all there is to say, apart from durations. -/
theorem document_loses_nothing (s : Summary) :
    (s.IsText → ∃ text, s.document? = some text ∧ (∃! v, Json.Spells v text.toList) ∧
      ofDocument? text = some s.timeless ∧
      ∀ t : Summary, t.document? = some text → t.timeless = s.timeless) ∧
    (¬s.IsText → s.document? = none) := by
  have hread : ∀ {s : Summary} {text}, s.document? = some text →
      (∃ v, Json.Spells v text.toList) ∧ ofDocument? text = some s.timeless := by
    intro s text h
    obtain ⟨v, hv, rfl⟩ := Option.map_eq_some_iff.mp h
    obtain ⟨-, hcarries⟩ := carries hv
    have hspells := Json.spells_pretty hcarries.proper
    refine ⟨⟨v, hspells⟩, ?_⟩
    rw [ofDocument?, Json.read?_of_spells hspells, Option.bind_some, hcarries.eq]
  constructor
  · intro htext
    obtain ⟨document, hdocument⟩ := exists_toJson htext.cases htext.rejected
    have h : s.document? = some document.pretty := by rw [document?, hdocument]; rfl
    obtain ⟨⟨v, hv⟩, hs⟩ := hread h
    refine ⟨_, h, ⟨v, hv, fun w hw => Json.eq_of_spells hw hv⟩, hs, fun t ht => ?_⟩
    rw [(hread ht).2] at hs
    exact Option.some.inj hs
  · intro htext
    cases h : s.toJson? with
    | none => rw [document?, h]; rfl
    | some document => exact absurd (carries h).1 htext

/-- A case that could not be started, and a name that was rejected. -/
def exampleReport : Summary where
  cases :=
    [{ id := ⟨"1"⟩
       input := .ofString "f/in1.py"
       artifacts := ⟨.ofString "o/out1.txt", .ofString "f/out1.txt"⟩
       verdict := .failed (.launch "cannot start \"p\"\n")
       exitCode := none
       elapsed := ⟨1, 500000000⟩ }]
  rejected := [⟨.ofString "f/in.py", "empty identifier"⟩]

/-- A summary whose only path is no text. -/
def exampleBroken : Summary where
  rejected := [⟨⟨[0xFF]⟩, "not UTF-8"⟩]

theorem document_loses_nothing_example :
    (∃ text, exampleReport.document? = some text ∧
      ofDocument? text = some exampleReport.timeless) ∧
    exampleBroken.document? = none := by
  constructor
  · have htext : exampleReport.IsText := by
      refine ⟨fun report h => ?_, fun rejected h => ?_⟩
      · obtain rfl := List.mem_singleton.mp h
        exact ⟨Path.isText_ofString _, Path.isText_ofString _, Path.isText_ofString _⟩
      · obtain rfl := List.mem_singleton.mp h
        exact Path.isText_ofString _
    obtain ⟨text, hdocument, -, hread, -⟩ := (document_loses_nothing exampleReport).1 htext
    exact ⟨text, hdocument, hread⟩
  · refine (document_loses_nothing exampleBroken).2 fun htext => ?_
    have hpath := htext.rejected _ (List.mem_singleton.mpr rfl)
    rw [← Path.isSome_decode?_iff] at hpath
    exact absurd hpath (by decide)

end Summary

end GoldenFiles
