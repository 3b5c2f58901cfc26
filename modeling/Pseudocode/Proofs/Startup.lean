import Pseudocode.Command.Run
import Mathlib.Control.Monad.Basic
import Mathlib.Tactic.Lemma

/-!
# Before a task starts

Settings, rules and the file to convert are read in this order before anything is written, shown or
started. Each of the three may be missing whatever becomes of the others; the program reports the
first that is, and leaves the host as it was.
-/

namespace Pseudocode.Command

/-- The path of the file that a task converts. -/
def Task.path? : Task → Option Text
  | convert path _ => some path
  | emit path _ => some path
  | run path => some path
  | listRules => none

/-- What keeps a task from being started. -/
inductive StartFault where
  | settings (fault : SettingsFault)
  | rules (fault : RulebookFault)
  | input (fault : FileFault)
deriving DecidableEq

namespace StartFault

/-- The place of a fault in the order of reading. -/
def stage : StartFault → Nat
  | settings _ => 0
  | rules _ => 1
  | input _ => 2

/-- What is written about a fault, in the words of the readers. -/
def report (w : Wording) : StartFault → Text
  | settings fault => settingsReport w fault
  | rules fault => "Error: ".toList ++ rulesSentence w fault
  | input fault => "Error: ".toList ++ (fault.message ++ ['\n'])

/-- A fault of an invocation on a host, each kind looked at by itself. What the rules are is for the
settings to say. -/
inductive Occurs (h : Host) (i : Invocation) : StartFault → Prop
  | settings {fault : SettingsFault} (hsettings : Command.settings h i = .error fault) :
      Occurs h i (.settings fault)
  | rules {s : Settings} {fault : RulebookFault} (hsettings : Command.settings h i = .ok s)
      (hrules : s.rulebook h = .error fault) : Occurs h i (.rules fault)
  | input {path : Text} {cause : HostFault} (hpath : i.task.path? = some path)
      (htext : h.text path = .error cause) : Occurs h i (.input ⟨path, cause⟩)

variable {h : Host} {i : Invocation}

lemma Occurs.eq_of_stage_eq {fault other : StartFault} (hf : fault.Occurs h i)
    (ho : other.Occurs h i) (hstage : fault.stage = other.stage) : fault = other := by
  cases hf with
  | settings hsettings =>
    cases ho with
    | settings hsettings' => rw [Except.error.inj (hsettings.symm.trans hsettings')]
    | rules | input => cases hstage
  | rules hsettings hrules =>
    cases ho with
    | rules hsettings' hrules' =>
      rw [Except.ok.inj (hsettings.symm.trans hsettings')] at hrules
      rw [Except.error.inj (hrules.symm.trans hrules')]
    | settings | input => cases hstage
  | input hpath htext =>
    cases ho with
    | input hpath' htext' =>
      obtain rfl := Option.some.inj (hpath.symm.trans hpath')
      rw [Except.error.inj (htext.symm.trans htext')]
    | settings | rules => cases hstage

/-- A fault that comes before every other. -/
def IsFirst (h : Host) (i : Invocation) (fault : StartFault) : Prop :=
  fault.Occurs h i ∧
    ∀ other : StartFault, other.Occurs h i → other = fault ∨ fault.stage < other.stage

lemma Occurs.exists_isFirst {fault : StartFault} (hf : fault.Occurs h i) :
    ∃ first, IsFirst h i first := by
  by_cases hearlier : ∃ other : StartFault, other.Occurs h i ∧ other.stage < fault.stage
  · obtain ⟨other, ho, hlt⟩ := hearlier
    exact ho.exists_isFirst
  · refine ⟨fault, hf, fun other ho => ?_⟩
    have hle : fault.stage ≤ other.stage := Nat.le_of_not_lt fun hlt => hearlier ⟨other, ho, hlt⟩
    exact (Nat.eq_or_lt_of_le hle).imp_left fun heq => ho.eq_of_stage_eq hf heq.symm
termination_by fault.stage

lemma error_prefix_report (w : Wording) (fault : StartFault) :
    "Error".toList <+: fault.report w := by
  cases fault with
  | settings fault => exact ⟨" loading configuration: ".toList ++ lastWords (w.settings fault), rfl⟩
  | rules fault => exact ⟨": ".toList ++ rulesSentence w fault, rfl⟩
  | input fault => exact ⟨": ".toList ++ (fault.message ++ ['\n']), rfl⟩

end StartFault

/-- The words of the readers are known whatever they refuse. -/
structure Wording.IsComplete (w : Wording) : Prop where
  settings : ∀ fault, (w.settings fault).isSome
  document : w.document.isSome
  pattern : ∀ pattern, (w.pattern pattern).isSome

lemma feed_suffix_lastWords {words : Option Text} (h : words.isSome) :
    ['\n'] <:+ lastWords words := by
  obtain ⟨words, rfl⟩ := Option.isSome_iff_exists.mp h
  exact List.suffix_append words _

lemma Wording.IsComplete.feed_suffix_rulesSentence {w : Wording} (h : w.IsComplete)
    (fault : RulebookFault) : ['\n'] <:+ rulesSentence w fault := by
  refine List.IsSuffix.trans ?_ (List.suffix_append fault.message _)
  cases fault with
  | unreadable => exact List.suffix_rfl
  | malformed => exact feed_suffix_lastWords h.document
  | refused fault =>
    cases fault with
    | noPatterns | slotMismatch => exact List.suffix_rfl
    | badPattern keyword pattern => exact feed_suffix_lastWords (h.pattern pattern)

lemma Wording.IsComplete.feed_suffix_report {w : Wording} (h : w.IsComplete)
    (fault : StartFault) : ['\n'] <:+ fault.report w := by
  cases fault with
  | settings fault =>
    exact (feed_suffix_lastWords (h.settings fault)).trans (List.suffix_append _ _)
  | rules fault => exact (h.feed_suffix_rulesSentence fault).trans (List.suffix_append _ _)
  | input fault =>
    exact (List.suffix_append fault.message _).trans (List.suffix_append _ _)

/-! ### What is done without a file -/

/-- The outcome of an invocation that is refused with a report. -/
def Outcome.refused (w : Wording) (h : Host) (fault : StartFault) : Outcome :=
  ⟨h, [], fault.report w, 1⟩

variable {w : Wording} {start : Starter} {s : Settings} {c : Converter} {h : Host} {input : List UInt8}

lemma doTask_of_unreadable {task : Task} {path : Text} {cause : HostFault}
    (hpath : task.path? = some path) (htext : h.text path = .error cause) :
    doTask start s c h input task = .refused w h (.input ⟨path, cause⟩) := by
  have hfile : c.convertFile h path = .error ⟨path, cause⟩ := by rw [Converter.convertFile, htext]
  have hwith (next : Conversion → Outcome) :
      withConversion c h path next = .refused w h (.input ⟨path, cause⟩) := by
    rw [withConversion, hfile]
    rfl
  cases task with
  | listRules => cases hpath
  | convert | emit | run =>
    obtain rfl := Option.some.inj hpath
    exact hwith _

lemma invoke_of_settings {i : Invocation} {fault : SettingsFault}
    (hsettings : settings h i = .error fault) :
    invoke w start h input i = .refused w h (.settings fault) := by
  rw [invoke, hsettings]
  rfl

lemma ofSettings_eq_ok {book : Rulebook} (hrules : s.rulebook h = .ok book) :
    Converter.ofSettings h s = .ok ⟨book, s.defaultClass, s.indent⟩ := by
  rw [Converter.ofSettings, hrules]
  rfl

lemma invoke_of_rules {i : Invocation} {fault : RulebookFault} (hsettings : settings h i = .ok s)
    (hrules : s.rulebook h = .error fault) :
    invoke w start h input i = .refused w h (.rules fault) := by
  have hconverter : Converter.ofSettings h s = .error fault := by
    rw [Converter.ofSettings, hrules]
    rfl
  rw [invoke, hsettings]
  simp only [hconverter]
  rfl

lemma invoke_of_ok {i : Invocation} {book : Rulebook} (hsettings : settings h i = .ok s)
    (hrules : s.rulebook h = .ok book) :
    invoke w start h input i =
      doTask start s ⟨book, s.defaultClass, s.indent⟩ h input i.task := by
  rw [invoke, hsettings]
  simp only [ofSettings_eq_ok hrules]

/-- The first fault decides: a task that one precedes is refused. -/
lemma StartFault.IsFirst.invoke_eq {i : Invocation} {fault : StartFault}
    (hfirst : fault.IsFirst h i) : invoke w start h input i = .refused w h fault := by
  obtain ⟨hoccurs, hfirst⟩ := hfirst
  have hno {other : StartFault} (hother : other.Occurs h i) (hne : other ≠ fault)
      (hle : other.stage ≤ fault.stage) : False :=
    (hfirst other hother).elim hne (Nat.not_lt_of_le hle)
  cases hoccurs with
  | settings hsettings => exact invoke_of_settings hsettings
  | rules hsettings hrules => exact invoke_of_rules hsettings hrules
  | @input path cause hpath htext =>
    cases hsettings : Command.settings h i with
    | error fault => exact (hno (.settings hsettings) StartFault.noConfusion (Nat.zero_le _)).elim
    | ok s =>
      cases hrules : s.rulebook h with
      | error fault =>
        exact (hno (.rules hsettings hrules) StartFault.noConfusion (by decide : 1 ≤ 2)).elim
      | ok book =>
        rw [invoke_of_ok hsettings hrules]
        exact doTask_of_unreadable hpath htext

/-- Whatever is missing when a task is asked for, the first that is missing is reported and nothing
else happens: there is no output, the host is as it was, and the outcome is the same for all
programs that might be started and all input that might be read. This is so in whatever words the
readers say what they refuse; where these are known the report ends its line. -/
theorem run_of_startFault {h : Host} {arguments : List Text} {i : Invocation} {fault : StartFault}
    (hinvoke : Request.ofArguments arguments = .invoke i) (hfault : fault.Occurs h i) :
    ∃ first : StartFault, first.IsFirst h i ∧ ∀ w : Wording,
      "Error".toList <+: first.report w ∧ (w.IsComplete → ['\n'] <:+ first.report w) ∧
      ∀ (start : Starter) (input : List UInt8),
        (runWith w start h arguments input).status = 1 ∧
        (runWith w start h arguments input).output = [] ∧
        (runWith w start h arguments input).errors = first.report w ∧
        (runWith w start h arguments input).host = h := by
  obtain ⟨first, hfirst⟩ := hfault.exists_isFirst
  refine ⟨first, hfirst, fun w => ⟨first.error_prefix_report w,
    fun hw => hw.feed_suffix_report first, fun start input => ?_⟩⟩
  have hrun : runWith w start h arguments input = .refused w h first := by
    rw [runWith, hinvoke]
    exact hfirst.invoke_eq
  rw [hrun]
  exact ⟨rfl, rfl, rfl, rfl⟩

theorem run_of_startFault_emit :
    let arguments := ["--rules", "no.json", "emit", "gone.nova", "-o", "out"].map String.toList
    let i : Invocation := ⟨none, some "no.json".toList, .emit "gone.nova".toList "out".toList⟩
    let h : Host := ⟨[], []⟩
    let fault : StartFault := .input ⟨"gone.nova".toList, .notFound⟩
    Request.ofArguments arguments = .invoke i ∧ fault.Occurs h i ∧
      ∀ (start : Starter) (input : List UInt8),
        (run start h arguments input).errors =
          ("Error: Cannot read rules from 'no.json': " ++
            "No such file or directory (os error 2)\n").toList ∧
        (run start h arguments input).status = 1 ∧ (run start h arguments input).output = [] ∧
        (run start h arguments input).host = h := by
  intro arguments i h fault
  let s : Settings := { Settings.standard with rulesPath := "no.json".toList }
  let rules : StartFault := .rules (.unreadable "no.json".toList .notFound)
  have hinvoke : Request.ofArguments arguments = .invoke i := by decide +kernel
  have hfault : fault.Occurs h i := .input rfl (by decide +kernel)
  have hsettings : settings h i = .ok s := by decide +kernel
  have hfile : s.ruleFile? = some "no.json".toList := by decide +kernel
  have htext : h.text "no.json".toList = .error .notFound := by decide +kernel
  have hrules : rules.Occurs h i := .rules hsettings (by
    rw [Settings.rulebook, hfile]
    simp only [Rulebook.load, htext])
  refine ⟨hinvoke, hfault, fun start input => ?_⟩
  obtain ⟨first, hfirst, hrun⟩ := run_of_startFault hinvoke hfault
  have hreported : rules = first := by
    cases hfirst.1 with
    | settings hfault => cases hsettings.symm.trans hfault
    | rules => exact hrules.eq_of_stage_eq hfirst.1 rfl
    | input => exact (hfirst.2 rules hrules).resolve_right (by decide : ¬2 < 1)
  obtain ⟨-, -, hrun⟩ := hrun .unknown
  obtain ⟨hstatus, houtput, herrors, hhost⟩ := hrun start input
  refine ⟨herrors.trans ?_, hstatus, houtput, hhost⟩
  rw [← hreported]
  decide +kernel

end Pseudocode.Command
