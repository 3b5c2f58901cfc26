import Pseudocode.Proofs.Building
import Pseudocode.Proofs.Results
import Pseudocode.Proofs.SessionCommands
import Pseudocode.Shell.Start

/-!
# Runs of scripts go on

What a script does to its session is made of expansions, redirections, utilities and commands of the
shell, so the session goes on whatever the script is. A program that the host starts therefore reads
its input from the start and leaves the end of it.
-/

namespace Pseudocode.Shell

open Session

variable {s t : Session} {output : Session → Text → Session × Text}

/-! ### Expansion -/

namespace Expansion

@[simp] lemma onward_stop (h : s.Onward t) (complaint : Text) : s.Onward (stop t complaint) := by
  simp [stop, h]

lemma onward_arithmetic (s : Session) (expression : Text) :
    s.Onward (arithmetic s expression).1 := by
  simp only [arithmetic]
  split
  · simp
  · exact Onward.foldr (by simp) (.refl s) _

/-- Expansions with the given fuel let a session go on. -/
structure GoesOn (output : Session → Text → Session × Text) (fuel : Nat) : Prop where
  pieces (s : Session) (w : Word) : s.Onward (pieces output fuel s w).1
  within (quoted : Bool) (s : Session) (t : Text) : s.Onward (within output fuel quoted s t).1
  part (s : Session) (part : Part) : s.Onward (part? output fuel s part).1
  trimmed (quoted : Bool) (s : Session) (glob : Text) (drop : List Glob.Part → Text → Text)
    (current : Option Text) : s.Onward (trimmed output fuel quoted s glob drop current).1

lemma GoesOn.part_succ {fuel : Nat} (ih : GoesOn output fuel)
    (houtput : ∀ (s : Session) script, s.Onward (output s script).1) (s : Session) (part : Part) :
    s.Onward (part? output (fuel + 1) s part).1 := by
  cases part with
  | char | quotes | length => simp [part?]
  | output script quoted => exact houtput s script
  | arithmetic expression quoted =>
    exact (ih.within true s expression).trans (onward_arithmetic _ _)
  | parameter name change quoted =>
    simp only [part?]
    split
    · simp
    · exact .fst_ite (ih.within ..) (.refl s)
    · exact .fst_ite (.refl s) (ih.within ..)
    · exact .fst_ite ((onward_set ..).2 (ih.within ..)) (.refl s)
    · exact .fst_ite (onward_stop (ih.within ..) _) (.refl s)
    · exact ih.trimmed ..
    · exact ih.trimmed ..
    · exact ih.trimmed ..
    · exact ih.trimmed ..
    · simp

lemma goesOn (houtput : ∀ (s : Session) script, s.Onward (output s script).1) (fuel : Nat) :
    GoesOn output fuel := by
  induction fuel with
  | zero => constructor <;> simp [pieces, within, part?, trimmed]
  | succ fuel ih =>
    refine ⟨fun s w => ?_, fun quoted s t => ?_, ih.part_succ houtput, fun quoted s glob _ _ =>
      ih.within false s glob⟩
    · cases w with
      | nil => simp [pieces]
      | cons part rest => exact (ih.part s part).trans (ih.pieces _ rest)
    · simp only [within]
      split
      · exact ih.pieces ..
      · simp

variable (houtput : ∀ (s : Session) script, s.Onward (output s script).1)
include houtput

lemma onward_single (s : Session) (w : Word) : s.Onward (single output s w).1 :=
  (goesOn houtput _).pieces s w

lemma onward_fields (s : Session) (ws : List Word) : s.Onward (fields output s ws).1 := by
  induction ws generalizing s with
  | nil => exact .refl s
  | cons w ws ih => exact ((goesOn houtput _).pieces s w).trans (ih _)

end Expansion

/-! ### Redirections and assignments -/

lemma onward_openFile (s : Session) (channel : Nat) (path : Text) (appends : Bool) :
    s.Onward (openFile s channel path appends).1 := by
  simp only [openFile]
  repeat' split
  all_goals simp

lemma onward_redirect (s : Session) (r : Redirection) (target : Text) :
    s.Onward (redirect s r target).1 := by
  rw [redirect]
  split
  · simp
  · exact onward_openFile ..
  · exact onward_openFile ..
  · split <;> simp
  · split
    · simp
    · split <;> simp

section

variable (houtput : ∀ (s : Session) script, s.Onward (output s script).1)
include houtput

lemma onward_redirectAll (s : Session) (rs : List Redirection) :
    s.Onward (redirectAll output s rs).1 := by
  induction rs generalizing s with
  | nil => exact .refl s
  | cons r rs ih =>
    have hfirst (target : Text) :
        s.Onward (redirect (Expansion.single output s r.target).1 r target).1 :=
      (Expansion.onward_single houtput s r.target).trans (onward_redirect ..)
    simp only [redirectAll]
    specialize hfirst (Expansion.text (Expansion.single output s r.target).2)
    split
    · next made hmade =>
      rw [hmade] at hfirst
      exact hfirst.trans (ih made)
    · next made hmade =>
      rw [hmade] at hfirst
      exact (onward_withStatus 2).2 hfirst

lemma onward_assignAll (s : Session) (assignments : List (Text × Word)) :
    s.Onward (assignAll output s assignments) := by
  induction assignments generalizing s with
  | nil => exact .refl s
  | cons entry rest ih =>
    have hvalue : s.Onward (Expansion.single output s entry.2).1 :=
      Expansion.onward_single houtput s entry.2
    exact Onward.trans ((onward_set ..).2 hvalue) (ih _)

end

/-! ### Runs -/

namespace Executable

variable {name program : Text} {run : Utility} {leading : List Text}

lemma goesOn_of_ofName? (h : ofName? name = some (.utility run leading)) : run.GoesOn := by
  rw [ofName?] at h
  split at h
  · cases h
  · obtain ⟨found, hfound, heq⟩ := Option.map_eq_some_iff.1 h
    cases heq
    exact Utility.goesOn_of_lookup Utility.goesOn_of_mem_table hfound

lemma goesOn_of_atPlace {host : Host} {place : Location}
    (h : atPlace host place program = .ok (.utility run leading)) : run.GoesOn := by
  rw [atPlace] at h
  split at h
  · cases h
  · split at h
    · next found hfound =>
      cases h
      exact goesOn_of_ofName? hfound
    · cases h
  · simp only at h
    repeat' split at h
    all_goals cases h
    all_goals next hfound => exact goesOn_of_ofName? hfound
  · cases h

lemma goesOn_of_find {host : Host} (h : find host program = .ok (.utility run leading)) :
    run.GoesOn := by
  simp only [find] at h
  split at h
  · obtain ⟨place, -, hplace⟩ := exists_of_bind_eq_ok h
    exact goesOn_of_atPlace hplace
  · split at h
    · cases h
    · split at h
      · exact goesOn_of_atPlace h
      · cases h

end Executable

@[simp] lemma onward_after {child : Session} : s.Onward (t.after child) ↔ s.Onward child := Iff.rfl

@[simp] lemma onward_returned : s.Onward t.returned ↔ s.Onward t := Iff.rfl

@[simp] lemma onward_checked (tested : Bool) : s.Onward (t.checked tested) ↔ s.Onward t := by
  rw [checked]
  split <;> rfl

@[simp] lemma onward_afterRound : s.Onward t.afterRound.1 ↔ s.Onward t := by
  rw [afterRound]
  repeat' split
  all_goals rfl

/-- Runs with the given fuel let a session go on. -/
structure RunsOn (fuel : Nat) : Prop where
  all {s t : Session} (h : s.Onward t) (tested : Bool) (cs : List Command) :
    s.Onward (runAll fuel tested t cs)
  script {s t : Session} (h : s.Onward t) (script : Text) : s.Onward (runScript fuel t script)
  output {s t : Session} (h : s.Onward t) (script : Text) : s.Onward (outputOf fuel t script).1
  nested {s t : Session} (h : s.Onward t) (name script : Text) (arguments : List Text) :
    s.Onward (runNested fuel t name script arguments)
  program {s t : Session} (h : s.Onward t) (program : Text) (arguments : List Text) :
    s.Onward (runProgram fuel t program arguments)
  words {s t : Session} (h : s.Onward t) (name : Text) (arguments : List Text) :
    s.Onward (runWords fuel t name arguments)
  simple {s t : Session} (h : s.Onward t) (assignments : List (Text × Word)) (words : List Word)
    (rs : List Redirection) : s.Onward (runSimple fuel t assignments words rs)
  pipe {s t : Session} (h : s.Onward t) (cs : List Command) : s.Onward (runPipe fuel t cs)
  loop {s t : Session} (h : s.Onward t) (succeeds : Bool) (test body : Command) (status : Nat) :
    s.Onward (runLoop fuel succeeds t test body status)
  each {s t : Session} (h : s.Onward t) (name : Text) (values : List Text) (body : Command) :
    s.Onward (runEach fuel t name values body)
  choice {s t : Session} (h : s.Onward t) (tested : Bool) (subject : Text)
    (arms : List (List Word × Command)) : s.Onward (runChoice fuel tested t subject arms)
  command {s t : Session} (h : s.Onward t) (tested : Bool) (c : Command) :
    s.Onward (run fuel tested t c)

lemma runsOn_zero : RunsOn 0 := by
  constructor <;> intros <;> assumption

namespace RunsOn

variable {fuel : Nat} (ih : RunsOn fuel)
include ih

lemma onward_output (s : Session) (script : Text) : s.Onward (outputOf fuel s script).1 :=
  ih.output (.refl s) script

variable (h : s.Onward t)
include h

lemma all_succ (tested : Bool) (cs : List Command) :
    s.Onward (runAll (fuel + 1) tested t cs) := by
  cases cs with
  | nil => exact h
  | cons c cs => exact .ite (ih.all (ih.command h ..) ..) (ih.command h ..)

lemma script_succ (script : Text) : s.Onward (runScript (fuel + 1) t script) :=
  .ite (ih.all h ..) ((ih.all h ..).complain _)

lemma output_succ (script : Text) : s.Onward (outputOf (fuel + 1) t script).1 := by
  rw [outputOf]
  exact onward_after.2 (ih.script (onward_mk.2 (h.openStream 1)) script)

lemma nested_succ (name script : Text) (arguments : List Text) :
    s.Onward (runNested (fuel + 1) t name script arguments) := by
  rw [runNested]
  exact onward_after.2 (ih.script (onward_mk.2 h) script)

lemma program_succ (program : Text) (arguments : List Text) :
    s.Onward (runProgram (fuel + 1) t program arguments) := by
  rw [runProgram]
  split
  · exact ih.nested h ..
  · next found hfound => exact h.trans (Executable.goesOn_of_find hfound ..)
  · split
    · exact ih.nested h ..
    · simp [h]
  · simp [h]
  · exact ih.nested h ..
  · simp [h]

lemma words_succ (name : Text) (arguments : List Text) :
    s.Onward (runWords (fuel + 1) t name arguments) := by
  simp only [runWords]
  split
  · simp [ih.command, h]
  · split
    · next command hcommand =>
      exact h.trans (Utility.goesOn_of_lookup Builtin.goesOn_of_mem_commands hcommand ..)
    · refine .ite (ih.script h _) (.ite ?_ (.ite ?_ (.ite ?_ (.ite ?_ (ih.program h ..)))))
      · split <;> simp [ih.script, h]
      · split <;> simp [ih.program, h]
      · split
        · simp [h]
        · split <;> simp [h]
        · exact ih.words h ..
      · split
        · simp [h]
        · exact ih.program h ..

lemma simple_succ (assignments : List (Text × Word)) (words : List Word)
    (rs : List Redirection) : s.Onward (runSimple (fuel + 1) t assignments words rs) := by
  have hwords := h.trans (Expansion.onward_fields ih.onward_output t words)
  have hrs := hwords.trans (onward_redirectAll ih.onward_output _ rs)
  simp only [runSimple]
  refine .ite hwords ?_
  split
  · split
    · next made hmade =>
      rw [hmade] at hrs
      exact hrs
    · next made hmade =>
      rw [hmade] at hrs
      exact hrs.trans (onward_assignAll ih.onward_output made assignments)
  · split
    · next made hmade =>
      rw [hmade] at hrs
      exact hrs
    · next made hmade =>
      rw [hmade] at hrs
      have hassigned := hrs.trans (onward_assignAll ih.onward_output made assignments)
      refine .ite hassigned ?_
      split <;> simp [ih.words hassigned]

lemma pipe_succ (cs : List Command) : s.Onward (runPipe (fuel + 1) t cs) := by
  match cs with
  | [] => exact h
  | [c] => exact ih.command h true c
  | c :: next :: cs =>
    have hfirst := ih.command (h.openStream 1) true c
    exact .ite hfirst (ih.pipe ((onward_after.2 hfirst).openSource 0 _) (next :: cs))

lemma loop_succ (succeeds : Bool) (test body : Command) (status : Nat) :
    s.Onward (runLoop (fuel + 1) succeeds t test body status) := by
  have htest := ih.command h true test
  have hround := onward_afterRound.2 (ih.command htest false body)
  rw [runLoop]
  refine .ite (onward_afterRound.2 htest) (.ite ((onward_withStatus _).2 htest) ?_)
  split
  · next again hagain =>
    rw [hagain] at hround
    exact ih.loop hround ..
  · next ended hended =>
    rw [hended] at hround
    exact hround

lemma each_succ (name : Text) (values : List Text) (body : Command) :
    s.Onward (runEach (fuel + 1) t name values body) := by
  cases values with
  | nil => exact h
  | cons value values =>
    have hround := onward_afterRound.2
      (ih.command ((onward_set name value).2 h) false body)
    rw [runEach]
    split
    · next again hagain =>
      rw [hagain] at hround
      exact ih.each hround ..
    · next ended hended =>
      rw [hended] at hround
      exact hround

lemma choice_succ (tested : Bool) (subject : Text)
    (arms : List (List Word × Command)) :
    s.Onward (runChoice (fuel + 1) tested t subject arms) := by
  match arms with
  | [] => exact h
  | ([], _) :: arms => exact ih.choice h ..
  | (w :: ws, body) :: arms =>
    have hword := h.trans (Expansion.onward_single ih.onward_output t w)
    exact .ite hword (.ite (ih.command ((onward_withStatus 0).2 hword) ..) (ih.choice hword ..))

lemma command_succ (tested : Bool) (c : Command) :
    s.Onward (run (fuel + 1) tested t c) := by
  cases c with
  | simple line assignments words rs => exact (onward_checked _).2 (ih.simple (onward_mk.2 h) ..)
  | pipeline negated parts =>
    have hafter {after : Session} (h : s.Onward after) : s.Onward (if negated then
        if after.flow = .normal then after.withStatus (if after.status = 0 then 1 else 0) else after
        else after.checked tested) :=
      .ite (.ite ((onward_withStatus _).2 h) h) ((onward_checked _).2 h)
    rcases parts with _ | ⟨c, _ | ⟨next, cs⟩⟩
    · exact hafter (ih.pipe h [])
    · exact hafter (ih.command h true c)
    · exact hafter (ih.pipe h (c :: next :: cs))
  | both first second =>
    have hfirst := ih.command h true first
    exact .ite (ih.command hfirst ..) hfirst
  | either first second =>
    have hfirst := ih.command h true first
    exact .ite (ih.command hfirst ..) hfirst
  | sequence parts => exact ih.all (.ite ((onward_withStatus 0).2 h) h) ..
  | subshell body => exact (onward_checked _).2 (onward_after.2 (ih.command h ..))
  | conditional test body otherwise =>
    have htest := ih.command h true test
    exact .ite htest (.ite (ih.command htest ..) (ih.command htest ..))
  | loop succeeds test body => exact ih.loop h ..
  | forEach name words body =>
    cases words with
    | none => exact ih.each ((onward_withStatus 0).2 h) ..
    | some words =>
      have hwords := h.trans (Expansion.onward_fields ih.onward_output t words)
      exact .ite hwords (ih.each ((onward_withStatus 0).2 hwords) ..)
  | choice subject arms =>
    have hsubject := h.trans (Expansion.onward_single ih.onward_output t subject)
    exact .ite hsubject (ih.choice hsubject ..)
  | definition => exact h
  | redirected body rs =>
    have hrs := h.trans (onward_redirectAll ih.onward_output t rs)
    simp only [run]
    split
    · next made hmade =>
      rw [hmade] at hrs
      exact (onward_checked _).2 hrs
    · next made hmade =>
      rw [hmade] at hrs
      exact ih.command hrs ..

end RunsOn

/-- Whatever is run, at whatever depth: what was open before has gone on. -/
theorem runsOn (fuel : Nat) : RunsOn fuel := by
  induction fuel with
  | zero => exact runsOn_zero
  | succ fuel ih =>
    exact ⟨ih.all_succ, ih.script_succ, ih.output_succ, ih.nested_succ, ih.program_succ,
      ih.words_succ, ih.simple_succ, ih.pipe_succ, ih.loop_succ, ih.each_succ, ih.choice_succ,
      ih.command_succ⟩

/-! ### Programs of the host -/

lemma toBytes_ofBytes (bytes : List UInt8) : toBytes (ofBytes bytes) = bytes := by
  have hbyte (b : UInt8) : UInt8.ofNat (Char.ofNat b.toNat).toNat = b := by
    have hvalid : b.toNat.isValidChar := .inl (Nat.lt_trans b.toNat_lt (by decide))
    rw [Char.ofNat, dif_pos hvalid]
    exact UInt8.ofNat_toNat
  rw [toBytes, ofBytes, List.map_map]
  exact (List.map_congr_left fun b _ => hbyte b).trans (List.map_id _)

lemma unread_ended {h : Host} {program : Text} {arguments : List Text} {input : List UInt8}
    (honward : (Session.start h program arguments input).Onward s) : s.ended.unread <:+ input := by
  have hread : s.left 0 <:+ ofBytes input := (honward.2 0 (Nat.zero_lt_succ _)).1
  obtain ⟨before, hbefore⟩ := hread
  refine ⟨toBytes before, ?_⟩
  have hbytes := congrArg toBytes hbefore
  rwa [toBytes, List.map_append, toBytes_ofBytes] at hbytes

/-- What a program of the host leaves unread is an end of the input that it was given. -/
theorem start_readsOnward : Starter.ReadsOnward start := by
  intro h program arguments input ended hstart
  have honward := Onward.refl
    (Session.start h (ofHostText program) (arguments.map ofHostText) input)
  simp only [start] at hstart
  split at hstart
  · cases hstart
  · split at hstart
    · cases hstart
    · cases hstart
      exact unread_ended ((runsOn depthLimit).script (honward.trans (Builtin.goesOn_set ..)) _)
    · next run leading hfind =>
      cases hstart
      exact unread_ended (Executable.goesOn_of_find hfind ..)
    · cases hstart
      exact unread_ended ((runsOn depthLimit).words honward ..)

end Pseudocode.Shell
