import Mathlib.Algebra.Ring.Int.Defs
import Mathlib.Data.List.Forall2
import UntitledOJ.GoText
import UntitledOJ.Transactions

/-!
# Judging with builtin components

The judge worker runs a submission on the cases of a problem package.  With builtin
components the runner's report is empty, and verdicts come from the sandbox and the checker.
-/

namespace UntitledOJ
namespace JudgeWorker

/-- The symbols that `normalize_default_trim` looks for. -/
class Layout (α : Type) where
  (cr lf space tab : α)

open Layout List

instance : Layout Char := ⟨'\r', '\n', ' ', '\t'⟩

instance : Layout UInt8 := ⟨13, 10, 32, 9⟩

theorem rdropWhile_cons {α : Type} (p : α → Bool) (x : α) (l : List α) :
    (x :: l).rdropWhile p = if l.rdropWhile p = [] ∧ p x then [] else x :: l.rdropWhile p := by
  simp only [rdropWhile, reverse_cons, dropWhile_append, reverse_eq_nil_iff, List.isEmpty_iff]
  split_ifs <;> simp_all [dropWhile]

section

variable {α : Type} [DecidableEq α] [Layout α]

def replaceCrLf : List α → List α
  | first :: second :: rest =>
    if first = cr ∧ second = lf then lf :: replaceCrLf rest
    else first :: replaceCrLf (second :: rest)
  | text => text

def trimLines (normalized : List α) : List (List α) :=
  ((normalized.splitOn lf).map
    (·.rdropWhile fun symbol => symbol = space ∨ symbol = tab)).rdropWhile (·.isEmpty)

def normalizeDefaultTrim (text : List α) : List (List α) :=
  trimLines ((replaceCrLf text).map fun symbol => if symbol = cr then lf else symbol)

def consLine (symbol : α) (lines : List (List α)) : List (List α) :=
  if symbol = lf then if lines = [] then [] else [] :: lines
  else if lines.headD [] = [] ∧ (symbol = space ∨ symbol = tab) then lines
  else (symbol :: lines.headD []) :: lines.tail

variable (symbol : α) (text : List α)

theorem trimLines_cons : trimLines (symbol :: text) = consLine symbol (trimLines text) := by
  obtain ⟨line, lines, split⟩ := exists_cons_of_ne_nil (splitOn_ne_nil lf text)
  unfold trimLines consLine
  rw [splitOn_cons_eq_if_modifyHead, split]
  by_cases ends : symbol = lf
  · simp only [ends, beq_self_eq_true, if_true, map_cons, rdropWhile_nil, rdropWhile_cons]
    grind
  · simp only [beq_iff_eq, ends, if_false, modifyHead_cons, map_cons, rdropWhile_cons]
    grind

theorem replaceCrLf_cons (other : symbol ≠ cr) :
    replaceCrLf (symbol :: text) = symbol :: replaceCrLf text := by
  cases text <;> simp [replaceCrLf, other]

variable (distinct : (cr : α) ≠ lf)
include distinct

theorem normalize_cons : normalizeDefaultTrim (symbol :: text) =
    if symbol ≠ cr then consLine symbol (normalizeDefaultTrim text)
    else if text.head? = some lf then normalizeDefaultTrim text
    else consLine lf (normalizeDefaultTrim text) := by
  simp only [normalizeDefaultTrim, ← trimLines_cons]
  by_cases ends : symbol = cr
  · cases text with
    | nil => simp [replaceCrLf, ends]
    | cons second rest =>
      by_cases crLf : second = lf
      · simp [replaceCrLf, ends, crLf, replaceCrLf_cons _ _ distinct.symm, distinct.symm]
      · simp [replaceCrLf, ends, crLf]
  · simp [replaceCrLf_cons _ _ ends, ends]

def Plain : Prop :=
  symbol ≠ cr ∧ symbol ≠ lf ∧ symbol ≠ space ∧ symbol ≠ tab

theorem normalize_plain {symbols : List α} (plain : ∀ symbol ∈ symbols, Plain symbol)
    (nonempty : symbols ≠ []) : normalizeDefaultTrim (symbols ++ text) =
      (symbols ++ (normalizeDefaultTrim text).headD []) :: (normalizeDefaultTrim text).tail := by
  induction symbols with
  | nil => contradiction
  | cons symbol symbols ih =>
    obtain ⟨notCr, notLf, notSpace, notTab⟩ := plain symbol mem_cons_self
    rw [cons_append, normalize_cons _ _ distinct, if_pos notCr]
    by_cases last : symbols = []
    · simp [consLine, last, notLf, notSpace, notTab]
    · rw [ih (fun _ member => plain _ (mem_cons_of_mem _ member)) last]
      simp [consLine, notLf, notSpace, notTab]

end

inductive SandboxStatus where
  | ok | timeLimitExceeded | memoryLimitExceeded | outputLimitExceeded | runtimeError
  deriving DecidableEq

structure SandboxOutput where
  status : SandboxStatus
  (timeMs memoryKb : Int)
  (stderr message : String)

/-- How the run of a case ends, and what can be read from its output and the answer. -/
structure CaseRun where
  sandboxOutput : SandboxOutput
  (stdout answer : Option ByteArray)

inductive BuiltinChecker where
  | defaultTrim | interactive | communication | outputOnly | heuristic
  deriving DecidableEq

inductive GroupRule where
  | sum | min | max | any | allOrNothing

structure GroupRecord where
  (groupNo score : Int)
  rule : GroupRule

structure CaseRecord where
  caseNo : Int
  answer : String
  (score group : Int)

/-- A package with builtin components; its case numbers are distinct. -/
structure LoadedProblemPackage where
  cases : List CaseRecord
  groups : List GroupRecord
  checker : BuiltinChecker

inductive Status where
  | accepted | wrongAnswer | timeLimitExceeded | memoryLimitExceeded | outputLimitExceeded
  | runtimeError
  deriving DecidableEq

structure CaseVerdict where
  caseNo : Int
  status : Status
  (score timeMs memoryKb : Int)
  message : String

/-- Why judging gives no result. -/
inductive JudgeError where
  | readAnswerFailed (path : String)
  | panicked

/-- A text that is cut inside a character panics. -/
def truncateMessage (text : String) : Except JudgeError String :=
  let text := trimSpace text
  if text.utf8ByteSize ≤ 512 then .ok text
  else match String.fromUTF8? (text.toUTF8.extract 0 512) with
    | some start => .ok (start ++ "...")
    | none => .error .panicked

variable (case : CaseRecord)

def CaseRecord.verdict (output : SandboxOutput) (status : Status) (score : Int)
    (message : String) : CaseVerdict :=
  ⟨case.caseNo, status, score, output.timeMs, output.memoryKb, message⟩

def verdictFromSandbox (output : SandboxOutput) : Except JudgeError CaseVerdict :=
  let verdict := case.verdict output
  match output.status with
  | .ok => .ok (verdict .accepted case.score "")
  | .timeLimitExceeded => .ok (verdict .timeLimitExceeded 0 "time limit exceeded")
  | .memoryLimitExceeded => .ok (verdict .memoryLimitExceeded 0 "memory limit exceeded")
  | .outputLimitExceeded =>
    (if isBlank output.message then .ok "output limit exceeded"
      else truncateMessage output.message).map (verdict .outputLimitExceeded 0)
  | .runtimeError =>
    (if !isBlank output.message then truncateMessage output.message
      else if isBlank output.stderr then .ok "runtime error"
      else truncateMessage output.stderr).map (verdict .runtimeError 0)

def runDefaultTrimChecker (run : CaseRun) : Except JudgeError CaseVerdict :=
  let verdict := case.verdict run.sandboxOutput
  let actual := (run.stdout.bind String.fromUTF8?).getD ""
  match run.answer.bind String.fromUTF8? with
  | none => .error (.readAnswerFailed case.answer)
  | some expected => do
    if normalizeDefaultTrim actual.toList = normalizeDefaultTrim expected.toList then
      return verdict .accepted case.score ""
    -- the log quotes both texts
    let _ ← truncateMessage expected
    let _ ← truncateMessage actual
    return verdict .wrongAnswer 0 "wrong answer"

/-- `verdict_after_run` with a checker, builtin or not. -/
def verdictChecked (output : SandboxOutput)
    (checker : CaseVerdict → Except JudgeError CaseVerdict) : Except JudgeError CaseVerdict := do
  let verdict ← verdictFromSandbox case output
  if verdict.status ≠ .accepted then return verdict
  checker verdict

variable (package : LoadedProblemPackage)

def verdictAfterRun (run : CaseRun) : Except JudgeError CaseVerdict :=
  verdictChecked case run.sandboxOutput fun verdict =>
    if package.checker = .heuristic then .ok verdict else runDefaultTrimChecker case run

/-- The verdict as it enters the result. -/
def CaseVerdict.withPaths (verdict : CaseVerdict) : CaseVerdict :=
  { verdict with score := max 0 (min verdict.score 100) }

def runOneArtifactCase (run : CaseRun) : Except JudgeError CaseVerdict := do
  return (← verdictAfterRun case package run).withPaths

structure ResultFile where
  status : Status
  (score timeMs memoryKb : Int)
  message : String
  cases : List CaseVerdict

def ResultFile.add (result : ResultFile) (case : CaseVerdict) : ResultFile :=
  let first := case.status ≠ .accepted ∧ result.status = .accepted
  { result with
    status := if first then case.status else result.status
    message := if first then case.message else result.message
    timeMs := max result.timeMs case.timeMs
    memoryKb := max result.memoryKb case.memoryKb
    cases := result.cases ++ [case] }

/-- What the cases score, before the cap. -/
def earned (cases : List CaseVerdict) : Int :=
  (cases.map fun case => max case.score 0).sum

/-- The sum is taken in 32 bits. -/
def scoreSubmission (cases : List CaseVerdict) : Int :=
  min (Int.bmod (earned cases) (2 ^ 32)) 100

variable (runs : Int → CaseRun)

def judgeCase (result : ResultFile) (case : CaseRecord) : Except JudgeError ResultFile := do
  return result.add (← runOneArtifactCase case package (runs case.caseNo))

/-- `judge_artifacts` of a compiled submission, whose run on every case is given. -/
def judgeArtifacts : Except JudgeError ResultFile := do
  let result ← package.cases.foldlM (judgeCase package runs) ⟨.accepted, 0, 0, 0, "", []⟩
  return { result with score := scoreSubmission result.cases }

variable {case package runs} {run : CaseRun} {verdict : CaseVerdict} {result : ResultFile}
  {cases : List CaseRecord} {verdicts : List CaseVerdict}

theorem score_of_sandbox {output : SandboxOutput}
    (judged : verdictFromSandbox case output = .ok verdict) :
    verdict.score = (if verdict.status = .accepted then case.score else 0) ∧
      (verdict.status = .accepted → output.status = .ok) := by
  unfold verdictFromSandbox Except.map at judged
  grind [CaseRecord.verdict]

theorem score_of_checker (judged : runDefaultTrimChecker case run = .ok verdict) :
    verdict.score = if verdict.status = .accepted then case.score else 0 := by
  unfold runDefaultTrimChecker at judged
  simp only [bind, Except.bind, pure, Except.pure] at judged
  grind [CaseRecord.verdict]

/-- What the case scores when it is accepted. -/
def CaseRecord.worth (case : CaseRecord) : Int :=
  max 0 (min case.score 100)

def Scored (case : CaseRecord) (verdict : CaseVerdict) : Prop :=
  verdict.score = if verdict.status = .accepted then case.worth else 0

theorem scored_of_run (judged : runOneArtifactCase case package run = .ok verdict) :
    Scored case verdict := by
  obtain ⟨unclamped, after, ⟨⟩⟩ := ok_of_bind judged
  obtain ⟨verdict, sandbox, after⟩ := ok_of_bind after
  have scored : unclamped.score = if unclamped.status = .accepted then case.score else 0 := by
    split_ifs at after
    · cases after
      exact (score_of_sandbox sandbox).1
    · cases after
      exact (score_of_sandbox sandbox).1
    · exact score_of_checker after
  rw [Scored, CaseVerdict.withPaths, scored]
  split_ifs <;> rfl

/-- The verdict is that of the run of the case. -/
def Judged (package : LoadedProblemPackage) (runs : Int → CaseRun) (case : CaseRecord)
    (verdict : CaseVerdict) : Prop :=
  runOneArtifactCase case package (runs case.caseNo) = .ok verdict

theorem judgeCase_run {start : ResultFile} :
    cases.foldlM (judgeCase package runs) start = .ok result ↔
      ∃ verdicts, Forall₂ (Judged package runs) cases verdicts ∧
        result = verdicts.foldl .add start := by
  induction cases generalizing start with
  | nil => simp [pure, Except.pure, eq_comm]
  | cons case cases ih =>
    rw [foldlM_cons]
    constructor
    · intro judged
      obtain ⟨_, first, judged⟩ := ok_of_bind judged
      obtain ⟨verdict, run, ⟨⟩⟩ := ok_of_bind first
      obtain ⟨verdicts, each, rfl⟩ := ih.mp judged
      exact ⟨verdict :: verdicts, .cons run each, rfl⟩
    · rintro ⟨verdicts, each, rfl⟩
      obtain ⟨verdict, rest, run, judged, rfl⟩ := forall₂_cons_left_iff.mp each
      have first : judgeCase package runs start case = .ok (start.add verdict) := by
        rw [judgeCase, run]
        rfl
      rw [first]
      exact ih.mpr ⟨_, judged, rfl⟩

theorem add_run (verdicts : List CaseVerdict) (start : ResultFile) :
    (verdicts.foldl .add start).cases = start.cases ++ verdicts ∧
      (verdicts.foldl .add start).status = if start.status = .accepted then
        (verdicts.find? (·.status ≠ .accepted)).elim .accepted (·.status) else start.status := by
  induction verdicts generalizing start with
  | nil => simp
  | cons verdict verdicts ih =>
    rw [foldl_cons, (ih _).1, (ih _).2, find?_cons]
    by_cases passes : verdict.status = .accepted
    · simp [ResultFile.add, passes]
    · by_cases first : start.status = .accepted <;> simp [ResultFile.add, passes, first]

def summary (verdicts : List CaseVerdict) : ResultFile :=
  let result := verdicts.foldl ResultFile.add ⟨.accepted, 0, 0, 0, "", []⟩
  { result with score := scoreSubmission result.cases }

theorem summary_cases (verdicts : List CaseVerdict) : (summary verdicts).cases = verdicts :=
  (add_run verdicts _).1

theorem judgeArtifacts_iff : judgeArtifacts package runs = .ok result ↔
    ∃ verdicts, Forall₂ (Judged package runs) package.cases verdicts ∧
      result = summary verdicts := by
  constructor
  · intro judged
    obtain ⟨last, loop, ⟨⟩⟩ := ok_of_bind judged
    obtain ⟨verdicts, each, rfl⟩ := judgeCase_run.mp loop
    exact ⟨verdicts, each, rfl⟩
  · rintro ⟨verdicts, each, rfl⟩
    rw [judgeArtifacts, judgeCase_run.mpr ⟨verdicts, each, rfl⟩]
    rfl

theorem judgeArtifacts_ok (judged : judgeArtifacts package runs = .ok result) :
    Forall₂ (Judged package runs) package.cases result.cases ∧
      result.score = scoreSubmission result.cases ∧
      result.status = (result.cases.find? (·.status ≠ .accepted)).elim .accepted (·.status) := by
  obtain ⟨verdicts, each, rfl⟩ := judgeArtifacts_iff.mp judged
  refine ⟨(summary_cases verdicts).symm ▸ each, rfl, ?_⟩
  rw [summary_cases]
  exact (add_run verdicts _).2

/-- A submission earns what its cases are worth, or less when one that is worth something
fails. -/
theorem earned_le (each : Forall₂ (Judged package runs) cases verdicts) :
    0 ≤ earned verdicts ∧ earned verdicts ≤ (cases.map (·.worth)).sum ∧
      ((∀ verdict ∈ verdicts, verdict.status = .accepted) →
        earned verdicts = (cases.map (·.worth)).sum) ∧
      ∀ pair ∈ cases.zip verdicts, 0 < pair.1.score → pair.2.status ≠ .accepted →
        earned verdicts < (cases.map (·.worth)).sum := by
  induction each with
  | nil => simp [earned]
  | cons judged =>
    have scored := scored_of_run judged
    simp only [earned, Scored, CaseRecord.worth] at *
    grind

theorem scoreSubmission_of_lt (nonneg : 0 ≤ earned verdicts) (fits : earned verdicts < 2 ^ 31) :
    scoreSubmission verdicts = min (earned verdicts) 100 := by
  rw [scoreSubmission, Int.bmod_eq_of_le (by omega) (by omega)]

def paired (score : Int) : LoadedProblemPackage :=
  ⟨[⟨1, "1.ans", score, 1⟩, ⟨2, "2.ans", score, 1⟩], [⟨1, 100, .allOrNothing⟩], .heuristic⟩

def runEnding (status : SandboxStatus) : CaseRun :=
  ⟨⟨status, 0, 0, "", ""⟩, none, none⟩

def secondTimesOut (caseNo : Int) : CaseRun :=
  runEnding (if caseNo = 1 then .ok else .timeLimitExceeded)

def CaseRecord.unscored (groupNo : Int) (case : CaseRecord) : CaseRecord :=
  if case.group = groupNo then { case with score := 0 } else case

/-- The package in which the cases of a group have no score. -/
def LoadedProblemPackage.unscored (package : LoadedProblemPackage) (groupNo : Int) :
    LoadedProblemPackage :=
  { package with cases := package.cases.map (.unscored groupNo) }

theorem unscored_run : runOneArtifactCase { case with score := 0 } package run =
    (runOneArtifactCase case package run).map ({ · with score := 0 }) := by
  have sandbox : verdictFromSandbox { case with score := 0 } run.sandboxOutput =
      (verdictFromSandbox case run.sandboxOutput).map ({ · with score := 0 }) := by
    unfold verdictFromSandbox CaseRecord.verdict Except.map
    grind
  have checker : runDefaultTrimChecker { case with score := 0 } run =
      (runDefaultTrimChecker case run).map ({ · with score := 0 }) := by
    unfold runDefaultTrimChecker CaseRecord.verdict Except.map
    simp only [bind, Except.bind, pure, Except.pure]
    grind
  unfold runOneArtifactCase verdictAfterRun verdictChecked
  rw [sandbox, checker]
  cases verdictFromSandbox case run.sandboxOutput with
  | error => rfl
  | ok verdict =>
    simp only [bind, Except.bind, pure, Except.pure, Except.map]
    split_ifs <;> first | rfl | skip
    cases runDefaultTrimChecker case run <;> rfl

/-- The verdicts of the cases inside or outside a group. -/
def verdictsIn (groupNo : Int) (inside : Bool) (cases : List CaseRecord)
    (verdicts : List CaseVerdict) : List CaseVerdict :=
  ((cases.zip verdicts).filter fun judged => (judged.1.group = groupNo) == inside).map (·.2)

theorem unscored_cases {groupNo : Int} (each : Forall₂ (Judged package runs) cases verdicts) :
    ∃ others, Forall₂ (Judged package runs) (cases.map (.unscored groupNo)) others ∧
      earned others = earned (verdictsIn groupNo false cases verdicts) ∧
      earned verdicts = earned others + earned (verdictsIn groupNo true cases verdicts) ∧
      0 ≤ earned others ∧ 0 ≤ earned (verdictsIn groupNo true cases verdicts) := by
  induction each with
  | nil => exact ⟨[], .nil, by simp [earned, verdictsIn]⟩
  | @cons case verdict cases verdicts judged each ih =>
    obtain ⟨others, each, same⟩ := ih
    by_cases inside : case.group = groupNo
    · refine ⟨{ verdict with score := 0 } :: others, .cons ?_ each, ?_⟩
      · rw [CaseRecord.unscored, if_pos inside, Judged, unscored_run, judged]
        rfl
      · simp only [earned, verdictsIn] at *
        grind
    · refine ⟨verdict :: others, .cons ?_ each, ?_⟩
      · rwa [CaseRecord.unscored, if_neg inside]
      · simp only [earned, verdictsIn] at *
        grind

/-- Group rules are not looked at: a group counts for nothing exactly when its accepted cases have
no score, or the other ones earn the 100 to which the sum is cut. -/
theorem unscored_group {groupNo : Int} (judged : judgeArtifacts package runs = .ok result)
    (fits : (package.cases.map (·.worth)).sum < 2 ^ 31) :
    ∃ other, judgeArtifacts (package.unscored groupNo) runs = .ok other ∧
      (result.score = other.score ↔
        earned (verdictsIn groupNo true package.cases result.cases) = 0 ∨
          100 ≤ earned (verdictsIn groupNo false package.cases result.cases)) := by
  obtain ⟨each, score, _⟩ := judgeArtifacts_ok judged
  obtain ⟨nonneg, most, _⟩ := earned_le each
  obtain ⟨others, eachOther, outside, sum, nonnegOther, nonnegIn⟩ :=
    @unscored_cases _ _ _ _ groupNo each
  refine ⟨_, judgeArtifacts_iff.mpr ⟨others, eachOther, rfl⟩, ?_⟩
  change result.score = scoreSubmission (summary others).cases ↔ _
  rw [score, summary_cases, scoreSubmission_of_lt nonneg (by omega),
    scoreSubmission_of_lt nonnegOther (by omega), ← outside]
  omega

theorem no_score_in_time : ∃ result other,
    judgeArtifacts (paired 50) (fun _ => runEnding .timeLimitExceeded) = .ok result ∧
      judgeArtifacts ((paired 50).unscored 1) (fun _ => runEnding .timeLimitExceeded) =
        .ok other ∧ result.score = other.score := by
  obtain ⟨other, judged, same⟩ := @unscored_group (paired 50)
    (fun _ => runEnding .timeLimitExceeded) _ 1 rfl (by decide)
  exact ⟨_, other, rfl, judged, same.mpr (.inl rfl)⟩

theorem half_score_for_group : ∃ result other,
    judgeArtifacts (paired 50) secondTimesOut = .ok result ∧
      judgeArtifacts ((paired 50).unscored 1) secondTimesOut = .ok other ∧
      result.score = 50 ∧ other.score = 0 :=
  ⟨_, _, rfl, rfl, rfl, rfl⟩

def encode (text : List Char) : List UInt8 :=
  text.flatMap String.utf8EncodeChar

theorem encode_injective : encode.Injective := by
  intro text other same
  apply String.ofList_injective
  rw [← String.toByteArray_inj, String.toByteArray_ofList, String.toByteArray_ofList]
  exact congrArg toByteArray same

def Shows (byte : UInt8) (symbol : Char) : Prop :=
  (byte = cr ↔ symbol = cr) ∧ (byte = lf ↔ symbol = lf) ∧ (byte = space ↔ symbol = space) ∧
    (byte = tab ↔ symbol = tab)

theorem encode_symbol (symbol : Char) :
    (∃ byte, encode [symbol] = [byte] ∧ Shows byte symbol) ∨
      Plain symbol ∧ ∀ byte ∈ encode [symbol], Plain byte := by
  rw [encode, flatMap_singleton]
  by_cases one : symbol.utf8Size = 1
  · replace one := String.utf8EncodeChar_eq_singleton one
    have same (layout : Char) (byte : UInt8) (low : String.utf8EncodeChar layout = [byte]) :
        symbol.val.toUInt8 = byte ↔ symbol = layout := by
      simpa [encode, one, low] using encode_injective.eq_iff (a := [symbol]) (b := [layout])
    exact .inl ⟨_, one, same _ _ rfl, same _ _ rfl, same _ _ rfl, same _ _ rfl⟩
  · have high (byte mask : UInt8) (least : 128 ≤ mask) : Plain (byte ||| mask) := by
      have least : 128 ≤ byte ||| mask := UInt8.le_trans least (UInt8.le_iff_toNat_le.mpr (by
        rw [UInt8.toNat_or]
        exact Nat.right_le_or))
      refine ⟨?_, ?_, ?_, ?_⟩ <;> (intro same; rw [same] at least; revert least; decide)
    have plain : Plain symbol := by
      refine ⟨?_, ?_, ?_, ?_⟩ <;> (rintro rfl; exact one rfl)
    obtain size | size | size := symbol.utf8Size_eq.resolve_left one
    · simp [plain, String.utf8EncodeChar_eq_cons_cons size, high]
    · simp [plain, String.utf8EncodeChar_eq_cons_cons_cons size, high]
    · simp [plain, String.utf8EncodeChar_eq_cons_cons_cons_cons size, high]

theorem encode_cons (symbol : Char) (text : List Char) :
    encode (symbol :: text) = encode [symbol] ++ encode text := by
  simp [encode]

theorem head_encode (text : List Char) : (encode text).head? = some lf ↔ text.head? = some lf := by
  cases text with
  | nil => simp [encode]
  | cons symbol text =>
    rw [encode_cons]
    obtain ⟨byte, encoded, shows⟩ | ⟨plain, bytes⟩ := encode_symbol symbol
    · simp [encoded, shows.2.1]
    · cases encoded : encode [symbol] with
      | nil => simp [encode] at encoded
      | cons byte rest => simp [plain.2.1, (bytes byte (by simp [encoded])).2.1]

theorem normalize_encode (text : List Char) :
    normalizeDefaultTrim (encode text) = (normalizeDefaultTrim text).map encode := by
  induction text with
  | nil => rfl
  | cons symbol text ih =>
    have empty (line : List Char) : encode line = [] ↔ line = [] := encode_injective.eq_iff' rfl
    rw [encode_cons, normalize_cons _ _ (by decide)]
    obtain ⟨byte, encoded, isCr, isLf, isSpace, isTab⟩ |
      ⟨⟨notCr, notLf, notSpace, notTab⟩, bytes⟩ := encode_symbol symbol
    · rw [encoded, singleton_append, normalize_cons _ _ (by decide), ih]
      simp only [consLine, Ne, isCr, isLf, isSpace, isTab, head_encode]
      cases normalizeDefaultTrim text <;> simp [empty] <;> grind [encode_cons]
    · rw [normalize_plain _ (by decide) bytes (by simp [encode]), ih, if_pos notCr]
      cases normalizeDefaultTrim text <;> simp [consLine, notLf, notSpace, notTab, ← encode_cons]

/-- One edit of a line end or of trailing blanks, before the rest of a text. -/
inductive Edit : List UInt8 → List UInt8 → Prop
  | lineEnd {rest} : Edit (cr :: rest) (if rest.head? = some lf then rest else lf :: rest)
  | blank {symbol rest} (blank : symbol = space ∨ symbol = tab) :
    Edit (symbol :: lf :: rest) (lf :: rest)
  | last {symbol} (last : symbol ∈ [space, tab, lf]) : Edit [symbol] []

theorem normalize_edit {start text edited : List UInt8} (edit : Edit text edited)
    (apart : start.getLast? ≠ some cr) :
    normalizeDefaultTrim (start ++ text) = normalizeDefaultTrim (start ++ edited) := by
  have step symbol text := @normalize_cons UInt8 _ _ symbol text (by decide)
  have notCr : (lf : UInt8) ≠ cr := by decide
  induction start with
  | nil =>
    cases edit with
    | lineEnd => split_ifs with crLf <;> simp [step, crLf, notCr]
    | blank blank =>
      have first (rest : List UInt8) : (normalizeDefaultTrim (lf :: rest)).headD [] = [] := by
        rw [step, if_pos notCr, consLine, if_pos rfl]
        split_ifs <;> rfl
      rcases blank with rfl | rfl <;> rw [nil_append, step, if_pos (by decide), consLine,
        if_neg (by decide), if_pos ⟨first _, by simp⟩, nil_append]
    | last last =>
      simp only [mem_cons, not_mem_nil, or_false] at last
      rcases last with rfl | rfl | rfl <;> rfl
  | cons symbol start ih =>
    rw [cons_append, cons_append, step, step]
    cases start with
    | nil =>
      have other : symbol ≠ cr := by simpa using apart
      rw [if_pos other, if_pos other, ih (by simp)]
    | cons second start =>
      rw [getLast?_cons_cons] at apart
      rw [ih apart, cons_append, cons_append, head?_cons, head?_cons]

/-- Whether a run that ends well is accepted by the default checker. -/
def Accepts (case : CaseRecord) (package : LoadedProblemPackage) (output : SandboxOutput)
    (out ans : ByteArray) : Prop :=
  (runOneArtifactCase case { package with checker := .defaultTrim }
    ⟨{ output with status := .ok }, some out, some ans⟩).map (·.status) = .ok .accepted

variable {output : SandboxOutput}

def bytes (file : ByteArray) : List UInt8 :=
  file.data.toList

theorem read_text (text : String) : String.fromUTF8? text.toUTF8 = some text :=
  dif_pos text.isValidUTF8

theorem accepts_def {out ans : ByteArray} : Accepts case package output out ans ↔
    (runDefaultTrimChecker case ⟨{ output with status := .ok }, some out, some ans⟩ >>=
      fun verdict => pure verdict.withPaths).map (·.status) = .ok .accepted :=
  .rfl

theorem accepts_iff (out ans : String) : Accepts case package output out.toUTF8 ans.toUTF8 ↔
    normalizeDefaultTrim (bytes out.toUTF8) = normalizeDefaultTrim (bytes ans.toUTF8) := by
  have encoded (text : String) : bytes text.toUTF8 = encode text.toList := by
    rw [bytes, String.toUTF8, ← String.utf8Encode_toList, utf8Encode, data_toByteArray, encode]
  rw [encoded, encoded, normalize_encode, normalize_encode,
    (map_injective_iff.mpr encode_injective).eq_iff, accepts_def]
  simp only [runDefaultTrimChecker, read_text, Option.bind_some, Option.getD_some]
  by_cases same : normalizeDefaultTrim out.toList = normalizeDefaultTrim ans.toList
  · rw [if_pos same]
    exact iff_of_true rfl same
  · rw [if_neg same]
    refine iff_of_false ?_ same
    cases truncateMessage ans <;> cases truncateMessage out <;> nofun

/-- Bytes without a line that is left are blanks and line ends, hence text. -/
theorem text_of_normalize_nil {file : List UInt8} (none : normalizeDefaultTrim file = []) :
    ∃ text, file = encode text := by
  induction file with
  | nil => exact ⟨[], rfl⟩
  | cons byte file ih =>
    rw [normalize_cons _ _ (by decide)] at none
    have layout : byte ∈ [cr, lf, space, tab] ∧ normalizeDefaultTrim file = [] := by
      unfold consLine at none
      grind
    obtain ⟨text, rfl⟩ := ih layout.2
    simp only [mem_cons, not_mem_nil, or_false] at layout
    rcases layout.1 with rfl | rfl | rfl | rfl
    · exact ⟨cr :: text, rfl⟩
    · exact ⟨lf :: text, rfl⟩
    · exact ⟨space :: text, rfl⟩
    · exact ⟨tab :: text, rfl⟩

/-- An output that is no text is read as empty. -/
theorem accepts_empty {out : ByteArray} (noText : String.fromUTF8? out = none) :
    Accepts case package output out "".toUTF8 := by
  rw [accepts_def]
  simp only [runDefaultTrimChecker, noText, read_text, Option.bind_some, Option.getD_none, if_true]
  rfl

/-- Acceptance is equality of the lines exactly for the outputs that are text.  What follows a CR
is edited after the CR. -/
theorem default_trim_exact :
    (∀ out : ByteArray, (∀ ans : String, Accepts case package output out ans.toUTF8 ↔
      normalizeDefaultTrim (bytes out) = normalizeDefaultTrim (bytes ans.toUTF8)) ↔
        ∃ text : String, out = text.toUTF8) ∧
    let accepts (out ans : String) := Accepts case package output out.toUTF8 ans.toUTF8
    Equivalence accepts ∧
    ∀ start text edited, Edit text edited → start.getLast? ≠ some cr → ∀ out ans : String,
      bytes out.toUTF8 = start ++ text → bytes ans.toUTF8 = start ++ edited → accepts out ans := by
  simp only [accepts_iff]
  refine ⟨fun out => ⟨fun exact => ?_, ?_⟩, ⟨fun _ => rfl, Eq.symm, Eq.trans⟩, ?_⟩
  · cases read : String.fromUTF8? out with
    | some text =>
      obtain ⟨valid, _⟩ := Option.dite_none_right_eq_some.mp read
      exact ⟨.fromUTF8 out valid, rfl⟩
    | none =>
      obtain ⟨text, same⟩ := text_of_normalize_nil ((exact "").mp (accepts_empty read))
      refine ⟨.ofList text, ?_⟩
      rw [String.toUTF8, String.toByteArray_ofList, utf8Encode, ← encode, ← same]
      exact ByteArray.ext (by simp [bytes])
  · rintro ⟨text, rfl⟩ ans
    exact accepts_iff text ans
  · intro start text edited edit apart out ans outIs ansIs
    rw [outIs, ansIs, normalize_edit edit apart]

theorem blanks_overlooked : Accepts ⟨1, "1.ans", 100, 1⟩ (paired 100) (runEnding .ok).sandboxOutput
    "1 \r\n".toUTF8 "1".toUTF8 :=
  ((default_trim_exact.1 _).mpr ⟨_, rfl⟩ _).mpr (by decide)

theorem no_text_accepted :
    Accepts ⟨1, "1.ans", 100, 1⟩ (paired 100) (runEnding .ok).sandboxOutput ⟨#[255]⟩ "".toUTF8 ∧
      normalizeDefaultTrim [(255 : UInt8)] ≠ normalizeDefaultTrim (bytes "".toUTF8) := by
  constructor
  · rfl
  · decide

structure LimitConfig where
  (timeMs memoryMb : Nat)

structure ProblemLimits where
  default : LimitConfig
  languages : String → Option LimitConfig

/-- `limit_for`, with the limits that the case sets itself. -/
def ProblemLimits.limitFor (limits : ProblemLimits) (language : String)
    (timeLimitMs memoryLimitMb : Option Nat) : LimitConfig :=
  let limit := (limits.languages language).getD limits.default
  ⟨timeLimitMs.getD limit.timeMs, memoryLimitMb.getD limit.memoryMb⟩

/-- How nsjail ended, and what is read of its own files and of the program's.  The clock runs while
the cgroup is made and nsjail is started, while nsjail prepares and reaps, and while the program
runs. -/
structure JailRun where
  (setupMs jailMs programMs : Nat)
  exitCode : Option Int
  memoryKb : Int
  oomKilled : Bool
  (jailStdout jailStderr stdout stderr : Except String String)

def JailRun.waitMs (run : JailRun) : Nat :=
  run.jailMs + run.programMs

def JailRun.elapsedMs (run : JailRun) : Nat :=
  run.setupMs + run.waitMs

def mentions (text : String) (parts : List String) : Bool :=
  parts.any fun part => (text.toList.map Char.toLower).tails.any part.toList.isPrefixOf

def runNsjailShell (timeLimitMs : Nat) (run : JailRun) : Except JudgeError SandboxOutput := do
  let output status (timeMs : Nat) : String → String → SandboxOutput :=
    .mk status (Int.bmod timeMs (2 ^ 32)) run.memoryKb
  if timeLimitMs + 1000 < run.waitMs then
    if run.oomKilled then
      return output .memoryLimitExceeded timeLimitMs "" "memory limit exceeded"
    return output .timeLimitExceeded timeLimitMs "" "time limit exceeded"
  match run.jailStdout, run.jailStderr with
  | .error error, _ | .ok _, .error error =>
    return output .outputLimitExceeded run.elapsedMs "" (← truncateMessage error)
  | .ok _, .ok stderr =>
    if run.oomKilled then
      return output .memoryLimitExceeded run.elapsedMs stderr "memory limit exceeded"
    if run.exitCode = some 0 then return output .ok run.elapsedMs stderr ""
    let exit := run.exitCode.elim "process terminated by signal"
      ("process exited with code " ++ toString ·)
    let message := if isBlank stderr then exit else exit ++ "\n" ++ stderr
    let status := if mentions message ["time limit", "timed out"] then .timeLimitExceeded
      else if mentions message ["memory", "oom", "outofmemoryerror"] then .memoryLimitExceeded
      else .runtimeError
    return output status run.elapsedMs stderr (← truncateMessage message)

def attachCaseOutput (run : JailRun) (output : SandboxOutput) :
    Except JudgeError SandboxOutput := do
  match run.stdout, run.stderr with
  | .error error, _ | .ok _, .error error =>
    let message ← truncateMessage error
    return { output with status := .outputLimitExceeded, stderr := "", message }
  | .ok _, .ok stderr =>
    if output.status = .runtimeError && mentions stderr
        ["outofmemoryerror", "memoryerror", "java heap space", "cannot allocate memory"] then
      return ⟨.memoryLimitExceeded, output.timeMs, output.memoryKb, stderr, "memory limit exceeded"⟩
    return { output with stderr }

def runCaseInSandbox (limit : LimitConfig) (run : JailRun) : Except JudgeError SandboxOutput := do
  attachCaseOutput run (← runNsjailShell limit.timeMs run)

variable {jail : JailRun} {limit : LimitConfig}

theorem time_of_sandbox (ran : runCaseInSandbox limit jail = .ok output)
    (succeeded : output.status = .ok) : output.timeMs = Int.bmod jail.elapsedMs (2 ^ 32) ∧
      jail.waitMs ≤ limit.timeMs + 1000 := by
  obtain ⟨jailed, inside, attached⟩ := ok_of_bind ran
  unfold attachCaseOutput at attached
  unfold runNsjailShell at inside
  simp only [bind, Except.bind, pure, Except.pure] at attached inside
  grind

def timeLimitSec (timeLimitMs : Nat) : Nat :=
  max ((timeLimitMs + 999) / 1000) 1

/-- With these times beside the program's, no run is accepted that is measured over its limit,
provided nsjail ends the program in time. -/
def AcceptsInTime (limit : LimitConfig) (setupMs jailMs : Nat) : Prop :=
  ∀ (jail : JailRun) (case : CaseRecord) (checker : CaseVerdict → Except JudgeError CaseVerdict)
    (output : SandboxOutput) (verdict : CaseVerdict), jail.setupMs = setupMs →
    jail.jailMs = jailMs → jail.programMs ≤ 1000 * timeLimitSec limit.timeMs →
    runCaseInSandbox limit jail = .ok output → verdictChecked case output checker = .ok verdict →
      verdict.status = .accepted → output.timeMs ≤ limit.timeMs

def exits (setupMs jailMs programMs : Nat) : JailRun :=
  ⟨setupMs, jailMs, programMs, some 0, 0, false, .ok "", .ok "", .ok "", .ok ""⟩

theorem sandbox_exits {setupMs jailMs programMs : Nat}
    (inTime : jailMs + programMs ≤ limit.timeMs + 1000) :
    runCaseInSandbox limit (exits setupMs jailMs programMs) =
      .ok ⟨.ok, Int.bmod (exits setupMs jailMs programMs).elapsedMs (2 ^ 32), 0, "", ""⟩ := by
  simp [runCaseInSandbox, runNsjailShell, attachCaseOutput, exits, JailRun.waitMs,
    not_lt.mpr inTime, bind, Except.bind, pure, Except.pure]

/-- nsjail's limit is the case's only for whole seconds, and the measured time is the program's
only if nothing else takes time.  Otherwise a run over the limit is accepted, unless nsjail alone
outlasts the wait for it. -/
theorem accepted_in_time {limits : ProblemLimits} {language : String} {timeMs memoryMb : Option Nat}
    {setupMs jailMs : Nat} :
    let limit := limits.limitFor language timeMs memoryMb
    let covered := limit.timeMs + 1000 < jailMs ∨
      1000 * timeLimitSec limit.timeMs + setupMs + jailMs ≤ limit.timeMs
    (covered → AcceptsInTime limit setupMs jailMs) ∧
      (limit.timeMs + 1000 + setupMs < 2 ^ 31 →
        AcceptsInTime limit setupMs jailMs → covered) := by
  intro limit covered
  constructor
  · rintro covered jail case checker output verdict rfl rfl jailed ran judged accepted
    obtain ⟨first, sandbox, judged⟩ := ok_of_bind judged
    have passes : first.status = .accepted := by
      by_contra fails
      rw [if_pos fails] at judged
      cases judged
      exact fails accepted
    obtain ⟨measured, waited⟩ := time_of_sandbox ran ((score_of_sandbox sandbox).2 passes)
    have wrapped : Int.bmod jail.elapsedMs (2 ^ 32) ≤ jail.elapsedMs := by
      rw [Int.bmod_def]
      split <;> omega
    rw [measured]
    unfold JailRun.elapsedMs JailRun.waitMs at *
    omega
  · intro fits inTime
    by_contra uncovered
    -- the program runs as long as it can
    obtain ⟨last, isLast⟩ : ∃ last, last = min (1000 * timeLimitSec limit.timeMs)
      (limit.timeMs + 1000 - jailMs) := ⟨_, rfl⟩
    have ran := @sandbox_exits limit setupMs jailMs last (by omega)
    have late := inTime _ ⟨1, "1.ans", 100, 1⟩ .ok _ _ rfl rfl (by simp [exits]; omega) ran rfl rfl
    simp only [exits, JailRun.elapsedMs, JailRun.waitMs] at late
    rw [Int.bmod_eq_of_le (by omega) (by omega)] at late
    have rounded : limit.timeMs ≤ 1000 * timeLimitSec limit.timeMs := by
      unfold timeLimitSec
      omega
    omega

def limitOf (timeMs : Nat) : LimitConfig :=
  ProblemLimits.limitFor ⟨⟨timeMs, 256⟩, fun _ => none⟩ "cpp" none none

theorem accepted_at_limit :
    ∃ output, runCaseInSandbox (limitOf 1000) (exits 0 0 1000) = .ok output ∧
      output.timeMs ≤ 1000 := by
  have ran := @sandbox_exits (limitOf 1000) 0 0 1000 (by decide)
  have inTime := (@accepted_in_time ⟨⟨1000, 256⟩, fun _ => none⟩ "cpp" none none 0 0).1
    (.inr (by decide))
  exact ⟨_, ran, inTime _ ⟨1, "1.ans", 100, 1⟩ .ok _ _ rfl rfl (by decide) ran rfl rfl⟩

/-- The limit is rounded up to seconds, and nothing compares it with the measured time. -/
theorem accepted_past_limit : ∃ output verdict,
    (exits 0 0 1700).programMs ≤ 1000 * timeLimitSec (limitOf 1500).timeMs ∧
      runCaseInSandbox (limitOf 1500) (exits 0 0 1700) = .ok output ∧
      runOneArtifactCase ⟨1, "1.ans", 100, 1⟩ (paired 100) ⟨output, none, none⟩ = .ok verdict ∧
      verdict.status = .accepted ∧ (limitOf 1500).timeMs < verdict.timeMs :=
  ⟨_, _, by decide, sandbox_exits (by decide), rfl, rfl, by decide⟩

end JudgeWorker
end UntitledOJ
