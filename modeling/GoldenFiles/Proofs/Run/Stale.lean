import GoldenFiles.Proofs.FileSystem.Adding
import GoldenFiles.Proofs.Run.Confined
import GoldenFiles.Proofs.Run.Verdicts
import GoldenFiles.Run.Subprocess

/-!
# What an earlier run left behind

An output is emptied before the program starts. So nothing that comes later, be it the
program, which may read any file, or the comparison, which may read the same file under
another name, can find out what was in it: from two file systems that are alike but for
the content of the output, the same run goes on. This holds for whatever a launcher does.

What is in the output afterwards can only be said of programs that leave the other files
alone. Such a program is a `Subject`, a function of its arguments and of the files that
it finds, and `perform` is what comes of starting it.
-/

namespace GoldenFiles

open FileSystem

/-- What a program under test does: it cannot be started, or it prints something and
comes to an end. -/
inductive Performance where
  | refused (source : IoError)
  | ran (output : Bytes) (ending : Ending) (stderr : Bytes)

/-- What is printed on standard output. -/
def Performance.output : Performance → Bytes
  | refused _ => []
  | ran output _ _ => output

/-- What is left of a performance whose output was open at a location. -/
def Performance.invocation (program : Path) (limit : Option Duration) (stderr : StderrMode)
    (loc : Location) (fs : FileSystem) : Performance → Invocation
  | refused source => { result := .error (.launch program source), files := fs }
  | ran output ending errors =>
      { result := ending.result program limit
        files := fs.fill loc output
        stderr := if stderr = .inherit then errors else [] }

/-- A program under test, as a function of its arguments and of the file system that it
finds. -/
abbrev Subject := List Bytes → FileSystem → Performance

/-- The launcher that starts a subject. -/
def Launcher.ofSubject (subject : Subject) : Launcher := fun _ args _ output fs =>
  match subject args fs with
  | .refused source => .refused source
  | .ran printed ending stderr => .ran ending stderr (fs.fill output printed)

/-- What comes of starting a subject on an input, which is its last argument: nothing with an
argument that cannot be handed to it. -/
def Subject.perform (subject : Subject) (program : Path) (args : List String) (input : Path)
    (fs : FileSystem) : Performance :=
  let args := args.map Utf8.encode ++ [input.bytes]
  if (program.bytes :: args).any holdsNul then .refused nulInArgument else subject args fs

/-- Two file systems that are alike but for the content of the file that a path names. -/
def FileSystem.AlikeBut (p : Path) (fs gs : FileSystem) : Prop :=
  ∃ loc old executable stale, p.access (fs.stat p) = .ok (loc, .file old executable) ∧
    gs = fs.fill loc stale

section Files

variable {fs gs : FileSystem} {p : Path} {loc : Location} {old : Bytes} {executable : Bool}

theorem FileSystem.fill_of_file (h : fs.entry? loc = some (.file old executable)) (content : Bytes) :
    fs.fill loc content = fs.put loc (.file content executable) := by
  rw [fill, h]

/-- A file that is filled is where it was. -/
theorem FileSystem.stat_fill (h : fs.stat p = .ok (loc, .file old executable)) (content : Bytes) :
    stat (fs.fill loc content) p = .ok (loc, .file content executable) :=
  (keeps_fill fs loc content).stat_file h (entry?_fill (entry?_of_stat h (by simp)))

/-- An output is opened alike, whatever was in it. -/
theorem FileSystem.AlikeBut.openOutput_eq (h : fs.AlikeBut p gs) :
    fs.openOutput p = gs.openOutput p := by
  obtain ⟨loc, old, executable, stale, hstat, rfl⟩ := h
  obtain ⟨nul, hstat⟩ := (Path.access_eq_ok_iff ..).mp hstat
  rw [openOutput_of_stat nul hstat, openOutput_of_stat nul (stat_fill hstat stale),
    fill_of_file (entry?_of_stat hstat (by simp)), put_put]

end Files

section Runs

variable {c : TestCase} {launch : Launcher} {subject : Subject} {program : Path}
  {args : List String} {limit : Option Duration} {stderr : StderrMode} {input actual : Path}
  {fs gs : FileSystem} {loc : Location}

/-- Whatever a program's executor finds in the file system, it finds there once the output
has been opened. -/
theorem subprocess_congr (h : fs.openOutput actual = gs.openOutput actual) :
    Executor.subprocess launch program args limit stderr input actual fs =
      Executor.subprocess launch program args limit stderr input actual gs := by
  rw [Executor.subprocess, Executor.subprocess, h]

theorem runCase_congr {execute : Executor} (files : List Path) (errors : Bytes)
    (apart : ¬c.artifacts.actual.Same c.artifacts.expected)
    (h : execute c.input c.artifacts.actual fs = execute c.input c.artifacts.actual gs) :
    runCase execute c ⟨fs, files, errors⟩ = runCase execute c ⟨gs, files, errors⟩ := by
  unfold runCase
  simp only [if_neg apart, h]

/-- A subject is started in a file system in which the output is open, and what it prints
goes there. -/
theorem subprocess_ofSubject (h : fs.openOutput actual = (.ok loc, gs)) :
    Executor.subprocess (.ofSubject subject) program args limit stderr input actual fs =
      (subject.perform program args input gs).invocation program limit stderr loc gs := by
  simp only [Executor.subprocess, h, Subject.perform]
  by_cases hnul : (program.bytes :: (args.map Utf8.encode ++ [input.bytes])).any holdsNul = true
  · rw [if_pos hnul, if_pos hnul]
    rfl
  · rw [if_neg hnul, if_neg hnul, Launcher.ofSubject]
    cases subject (args.map Utf8.encode ++ [input.bytes]) gs <;> rfl

end Runs

/-- What a performance leaves: its output and nothing else that is new, and the report
on it. -/
structure Performance.Leaves (performed : Performance) (c : TestCase) (program : Path)
    (limit : Option Duration) (loc : Location) (opened : FileSystem) (report : CaseReport)
    (after : FileSystem) : Prop where
  holds : ∃ executable, after.entry? loc = some (.file performed.output executable)
  others : ∀ l, l ≠ loc → after.entry? l = opened.entry? l
  of_refused : ∀ source, performed = .refused source → report = c.report
    (.failed (.launch ("failed to launch '" ++ program.display ++ "': " ++ source.message))) none
  of_outlasted : ∀ output errors, performed = .ran output .outlasted errors →
    report = c.report (.failed (.timedOut (limit.getD .zero))) none
  of_lost : ∀ output source errors, performed = .ran output (.lost source) errors →
    report = c.report (.failed (.io (program.display ++ ": " ++ source.message))) none
  of_exited : ∀ output code errors, performed = .ran output (.exited code) errors →
    report = c.report (after.judge c.artifacts) code

section Leaving

variable {c : TestCase} {subject : Subject} {program : Path} {args : List String}
  {limit : Option Duration} {stderr : StderrMode} {s : RunState} {opened : FileSystem}
  {loc : Location}

/-- The output of a performance is all that is in the file, which was empty before it. -/
theorem Performance.entry?_invocation (performed : Performance) {executable : Bool}
    (he : opened.entry? loc = some (.file [] executable)) (l : Location) :
    entry? (performed.invocation program limit stderr loc opened).files l =
      if l = loc then some (.file performed.output executable) else opened.entry? l := by
  cases performed with
  | refused source =>
      show opened.entry? l = _
      split
      · next heq => rw [heq, he]; rfl
      · rfl
  | ran output ending errors =>
      show entry? (opened.fill loc output) l = _
      rw [fill_of_file he, entry?_put _ (by rintro rfl; cases he)]
      rfl

theorem Performance.reading_invocation (performed : Performance) {p : Path} {executable : Bool}
    (nul : holdsNul p.bytes = false) (h : opened.stat p = .ok (loc, .file [] executable)) :
    FileSystem.reading (performed.invocation program limit stderr loc opened).files p =
      .ok performed.output := by
  have hstat : stat (performed.invocation program limit stderr loc opened).files p =
      .ok (loc, .file performed.output executable) := by
    cases performed with
    | refused source => exact h
    | ran output ending errors => exact stat_fill h output
  exact reading_of_stat ((Path.access_eq_ok_iff ..).mpr ⟨nul, hstat⟩)

theorem leaves_of_openOutput (apart : ¬c.artifacts.actual.Same c.artifacts.expected)
    (h : s.files.openOutput c.artifacts.actual = (.ok loc, opened)) :
    (subject.perform program args c.input opened).Leaves c program limit loc opened
      (runCase (.subprocess (.ofSubject subject) program args limit stderr) c s).1
      (runCase (.subprocess (.ofSubject subject) program args limit stderr) c s).2.files := by
  obtain ⟨executable, he⟩ := openOutput_opens h
  rw [(runCase_calls _ apart s).2, runCase_report apart, subprocess_ofSubject h]
  generalize subject.perform program args c.input opened = performed
  have hentry (l : Location) :
      entry? (performed.invocation program limit stderr loc opened).files l =
        if l = loc then some (.file performed.output executable) else opened.entry? l :=
    performed.entry?_invocation he l
  refine ⟨⟨executable, ?_⟩, fun l hl => ?_, ?_, ?_, ?_, ?_⟩
  · rw [hentry, if_pos rfl]
  · rw [hentry, if_neg hl]
  · rintro source rfl
    rfl
  · rintro output errors rfl
    rfl
  · rintro output source errors rfl
    rfl
  · rintro output code errors rfl
    rfl

end Leaving

/-- What was in an output before has no influence on a run: the report and the files are
the same, whatever a launcher does. A program that does nothing but print leaves what it
printed in the output, which is nothing if it could not be started. -/
theorem stale_output_never_decides {c : TestCase}
    (apart : ¬c.artifacts.actual.Same c.artifacts.expected) (program : Path) (args : List String)
    (limit : Option Duration) (stderr : StderrMode) :
    (∀ (launch : Launcher) (fs gs : FileSystem) (started : List Path) (errors : Bytes),
      fs.AlikeBut c.artifacts.actual gs →
      runCase (.subprocess launch program args limit stderr) c ⟨fs, started, errors⟩ =
        runCase (.subprocess launch program args limit stderr) c ⟨gs, started, errors⟩) ∧
    ∀ (subject : Subject) (s : RunState) (loc : Location),
      (∀ opened, s.files.openOutput c.artifacts.actual = (.ok loc, opened) →
        (subject.perform program args c.input opened).Leaves c program limit loc opened
          (runCase (.subprocess (.ofSubject subject) program args limit stderr) c s).1
          (runCase (.subprocess (.ofSubject subject) program args limit stderr) c s).2.files) ∧
      (∀ old executable, c.artifacts.actual.access (s.files.stat c.artifacts.actual) =
          .ok (loc, .file old executable) →
        s.files.openOutput c.artifacts.actual = (.ok loc, s.files.fill loc []) ∧
        FileSystem.reading
            (runCase (.subprocess (.ofSubject subject) program args limit stderr) c s).2.files
            c.artifacts.actual =
          .ok (subject.perform program args c.input (s.files.fill loc [])).output) := by
  refine ⟨fun launch fs gs started errors halike => ?_, fun subject s loc => ⟨fun opened => ?_, ?_⟩⟩
  · exact runCase_congr started errors apart (subprocess_congr halike.openOutput_eq)
  · exact leaves_of_openOutput apart
  · intro old executable hstat
    obtain ⟨nul, hstat⟩ := (Path.access_eq_ok_iff ..).mp hstat
    have hopen : s.files.openOutput c.artifacts.actual = (.ok loc, s.files.fill loc []) := by
      rw [openOutput_of_stat nul hstat, fill_of_file (entry?_of_stat hstat (by simp))]
    refine ⟨hopen, ?_⟩
    rw [(runCase_calls _ apart s).2, subprocess_ofSubject hopen]
    exact Performance.reading_invocation _ nul (stat_fill hstat [])

/-- The example's files with an output that an earlier run has left, just as expected. -/
def leftoverFiles : FileSystem :=
  (exampleFiles.put [Utf8.encode "o"] .directory).put [Utf8.encode "out1.txt", Utf8.encode "o"]
    (.file [0x31] false)

/-- A program that prints what it finds in its own output. -/
def exampleCopy : Subject := fun _ fs =>
  match fs.read (.ofString "o/out1.txt") with
  | .ok content => .ran content (.exited (some 0)) []
  | .error e => .refused (.os e)

/-- The program does not find the old output, which would have passed. -/
theorem stale_output_never_decides_example :
    ¬exampleCase.artifacts.actual.Same exampleCase.artifacts.expected ∧
      leftoverFiles.AlikeBut exampleCase.artifacts.actual
        (leftoverFiles.fill [Utf8.encode "out1.txt", Utf8.encode "o"] [0x32]) ∧
      runCase (.subprocess (.ofSubject exampleCopy) (.ofString "cp") [] none .discard) exampleCase
          ⟨leftoverFiles, [], []⟩ =
        runCase (.subprocess (.ofSubject exampleCopy) (.ofString "cp") [] none .discard) exampleCase
          ⟨leftoverFiles.fill [Utf8.encode "out1.txt", Utf8.encode "o"] [0x32], [], []⟩ ∧
      FileSystem.reading
          (runCase (.subprocess (.ofSubject exampleCopy) (.ofString "cp") [] none .discard) exampleCase
            ⟨leftoverFiles, [], []⟩).2.files exampleCase.artifacts.actual = .ok [] := by
  have apart : ¬exampleCase.artifacts.actual.Same exampleCase.artifacts.expected := by decide +kernel
  have hstat : exampleCase.artifacts.actual.access
      (leftoverFiles.stat exampleCase.artifacts.actual) =
        .ok ([Utf8.encode "out1.txt", Utf8.encode "o"], .file [0x31] false) := by decide +kernel
  obtain ⟨alike, leaves⟩ := stale_output_never_decides apart (.ofString "cp") [] none .discard
  have halike : leftoverFiles.AlikeBut exampleCase.artifacts.actual
      (leftoverFiles.fill [Utf8.encode "out1.txt", Utf8.encode "o"] [0x32]) :=
    ⟨_, _, _, _, hstat, rfl⟩
  refine ⟨apart, halike, alike _ _ _ _ _ halike, ?_⟩
  rw [((leaves exampleCopy ⟨leftoverFiles, [], []⟩ _).2 _ _ hstat).2]
  decide +kernel

end GoldenFiles
