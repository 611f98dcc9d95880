import Mathlib.Data.List.TakeWhile
import ClusterRpc.Cli.Command

/-!
# Where the command starts

In front of the command stand flags of settings, each with its value. An argument belongs to them
for what it is and for where it stands, and what comes behind it does not matter. So the arguments
of a run come apart at one place, and nothing of them is lost.
-/

namespace ClusterRpc.Cli

/-! ## Flags of settings -/

/-- A flag that takes a value, without one. -/
inductive IsBareFlag : String → Prop
  | mk {long : String} (known : long ∈ valueFlags) : IsBareFlag ("--" ++ long)

/-- A flag that needs nothing behind it: a switch, or a flag with its value. -/
inductive IsWholeFlag : String → Prop
  | switch : IsWholeFlag ("--" ++ Config.verifyFlag.long)
  | switchValue (value : String) : IsWholeFlag ("--" ++ Config.verifyFlag.long ++ "=" ++ value)
  | valued {long : String} (known : long ∈ valueFlags) (value : String) :
      IsWholeFlag ("--" ++ long ++ "=" ++ value)

/-- Flags of settings, each with the value that it takes. -/
inductive IsSettings : List String → Prop
  | nil : IsSettings []
  | whole {flag : String} {rest : List String} :
      IsWholeFlag flag → IsSettings rest → IsSettings (flag :: rest)
  | valued {flag value : String} {rest : List String} :
      IsBareFlag flag → IsSettings rest → IsSettings (flag :: value :: rest)

/-- Flags of settings, of which the last lacks its value. -/
inductive IsUnfinished : List String → Prop
  | mk {front : List String} {flag : String} :
      IsSettings front → IsBareFlag flag → IsUnfinished (front ++ [flag])

example : valueFlags.map ("--" ++ ·) = ["--config-path", "--controller", "--connect-timeout",
    "--state-file", "--user", "--password", "--reconnect-attempts", "--reconnect-backoff-ms",
    "--log-filter", "--log-format"] := by decide

/-! ## What an argument is taken for -/

/-- What stands before the first `=` of an argument. -/
def flagName (argument : String) : Text := argument.toList.takeWhile (· != '=')

/-- Whether an argument is the flag of the given name, with a value or without. -/
def isFlag (argument long : String) : Bool := flagName argument == '-' :: '-' :: long.toList

/-- Whether an argument has a value of its own. -/
def hasValue (argument : String) : Bool := flagName argument != argument.toList

section

variable {argument long value : String}

theorem toList_flag (long : String) : ("--" ++ long).toList = '-' :: '-' :: long.toList := by
  rw [String.toList_append]
  rfl

theorem flagName_flag (hlong : '=' ∉ long.toList) :
    flagName ("--" ++ long) = '-' :: '-' :: long.toList := by
  rw [flagName, toList_flag, List.takeWhile_eq_self_iff]
  intro c hc
  rw [bne_iff_ne]
  rintro rfl
  simp only [List.mem_cons, hlong, or_false] at hc
  rcases hc with hc | hc <;> cases hc

theorem flagName_valued (hlong : '=' ∉ long.toList) (value : String) :
    flagName ("--" ++ long ++ "=" ++ value) = '-' :: '-' :: long.toList := by
  have hname := flagName_flag hlong
  rw [flagName, toList_flag, List.takeWhile_eq_self_iff] at hname
  rw [flagName, String.toList_append, String.toList_append, toList_flag, List.append_assoc,
    List.takeWhile_append_of_pos hname]
  exact List.append_nil _

theorem hasValue_flag (hlong : '=' ∉ long.toList) : hasValue ("--" ++ long) = false := by
  rw [hasValue, flagName_flag hlong, toList_flag, bne_self_eq_false]

theorem hasValue_valued (hlong : '=' ∉ long.toList) (value : String) :
    hasValue ("--" ++ long ++ "=" ++ value) = true := by
  rw [hasValue, flagName_valued hlong, bne_iff_ne, String.toList_append, String.toList_append,
    toList_flag]
  intro h
  have hlength := congrArg List.length h
  simp at hlength

/-- A flag is written with a value of its own or without one. -/
theorem isFlag_iff (hlong : '=' ∉ long.toList) : isFlag argument long = true ↔
    (hasValue argument = false ∧ argument = "--" ++ long) ∨
      (hasValue argument = true ∧ ∃ value, argument = "--" ++ long ++ "=" ++ value) := by
  constructor
  · intro h
    have hname : flagName argument = '-' :: '-' :: long.toList := eq_of_beq h
    have hsplit := List.takeWhile_append_dropWhile (p := (· != '=')) (l := argument.toList)
    rw [show argument.toList.takeWhile (· != '=') = _ from hname] at hsplit
    cases hrest : argument.toList.dropWhile (· != '=') with
    | nil =>
        rw [hrest, List.append_nil, ← toList_flag] at hsplit
        obtain rfl := String.toList_injective hsplit
        exact .inl ⟨hasValue_flag hlong, rfl⟩
    | cons c value =>
        obtain rfl : c = '=' := by
          have hc := List.head?_dropWhile_not (· != '=') argument.toList
          rw [hrest] at hc
          simpa using hc
        rw [hrest, ← toList_flag] at hsplit
        have harg : argument = "--" ++ long ++ "=" ++ String.ofList value := by
          apply String.toList_injective
          simp only [← hsplit, String.toList_append, String.toList_ofList, List.append_assoc]
          rfl
        exact .inr ⟨harg ▸ hasValue_valued hlong _, _, harg⟩
  · rintro (⟨-, rfl⟩ | ⟨-, value, rfl⟩)
    · exact beq_iff_eq.2 (flagName_flag hlong)
    · exact beq_iff_eq.2 (flagName_valued hlong value)

theorem plain_of_mem_valueFlags (h : long ∈ valueFlags) : '=' ∉ long.toList := by
  have hall : ∀ long ∈ valueFlags, '=' ∉ long.toList := by decide
  exact hall long h

theorem plain_verifyFlag : '=' ∉ Config.verifyFlag.long.toList := by decide

/-- Two flags are the same argument up to their values only if they have one name. -/
theorem long_eq_of_isFlag {long' : String} (h : isFlag argument long = true)
    (h' : isFlag argument long' = true) : long = long' := by
  have heq := (eq_of_beq h).symm.trans (eq_of_beq h')
  simp only [List.cons.injEq, true_and] at heq
  exact String.toList_injective heq

theorem isWholeFlag_iff : IsWholeFlag argument ↔ isFlag argument Config.verifyFlag.long = true ∨
    (valueFlags.any (isFlag argument) = true ∧ hasValue argument = true) := by
  constructor
  · rintro (_ | value | ⟨known, value⟩)
    · exact .inl (beq_iff_eq.2 (flagName_flag plain_verifyFlag))
    · exact .inl (beq_iff_eq.2 (flagName_valued plain_verifyFlag value))
    · have hlong := plain_of_mem_valueFlags known
      exact .inr ⟨List.any_eq_true.2 ⟨_, known, beq_iff_eq.2 (flagName_valued hlong value)⟩,
        hasValue_valued hlong value⟩
  · rintro (hverify | ⟨hany, hvalue⟩)
    · rcases (isFlag_iff plain_verifyFlag).1 hverify with ⟨-, rfl⟩ | ⟨-, value, rfl⟩
      · exact .switch
      · exact .switchValue value
    · obtain ⟨long, known, hflag⟩ := List.any_eq_true.1 hany
      rcases (isFlag_iff (plain_of_mem_valueFlags known)).1 hflag with ⟨hnone, -⟩ | ⟨-, value, rfl⟩
      · rw [hvalue] at hnone
        cases hnone
      · exact .valued known value

theorem isBareFlag_iff : IsBareFlag argument ↔
    valueFlags.any (isFlag argument) = true ∧ hasValue argument = false := by
  constructor
  · rintro ⟨known⟩
    have hlong := plain_of_mem_valueFlags known
    exact ⟨List.any_eq_true.2 ⟨_, known, beq_iff_eq.2 (flagName_flag hlong)⟩, hasValue_flag hlong⟩
  · rintro ⟨hany, hvalue⟩
    obtain ⟨long, known, hflag⟩ := List.any_eq_true.1 hany
    rcases (isFlag_iff (plain_of_mem_valueFlags known)).1 hflag with ⟨-, rfl⟩ | ⟨hsome, -⟩
    · exact .mk known
    · rw [hvalue] at hsome
      cases hsome

/-- No flag both takes a value and needs none. -/
theorem not_isWholeFlag_of_isBareFlag (h : IsBareFlag argument) : ¬IsWholeFlag argument := by
  obtain ⟨hany, hvalue⟩ := isBareFlag_iff.1 h
  obtain ⟨long, known, hflag⟩ := List.any_eq_true.1 hany
  rw [isWholeFlag_iff, hvalue]
  rintro (hverify | ⟨-, hsome⟩)
  · have hother : Config.verifyFlag.long ∉ valueFlags := by decide
    exact hother (long_eq_of_isFlag hverify hflag ▸ known)
  · cases hsome

end

/-! ## Splitting -/

section

variable {argument value flag : String} {arguments rest settings command : List String}

theorem splitSettings_cons (argument : String) (rest : List String) :
    splitSettings (argument :: rest) =
      if isFlag argument Config.verifyFlag.long ||
          (valueFlags.any (isFlag argument) && hasValue argument) then
        (argument :: (splitSettings rest).1, (splitSettings rest).2)
      else if valueFlags.any (isFlag argument) then
        match rest with
        | [] => ([argument], [])
        | value :: rest =>
            (argument :: value :: (splitSettings rest).1, (splitSettings rest).2)
      else ([], argument :: rest) := by
  rw [splitSettings.eq_def]
  rfl

theorem splitSettings_of_whole (h : IsWholeFlag flag) (rest : List String) :
    splitSettings (flag :: rest) = (flag :: (splitSettings rest).1, (splitSettings rest).2) := by
  rw [splitSettings_cons, if_pos]
  rwa [Bool.or_eq_true, Bool.and_eq_true, ← isWholeFlag_iff]

theorem splitSettings_of_bare (h : IsBareFlag flag) (rest : List String) :
    splitSettings (flag :: rest) =
      match rest with
      | [] => ([flag], [])
      | value :: rest => (flag :: value :: (splitSettings rest).1, (splitSettings rest).2) := by
  rw [splitSettings_cons, if_neg, if_pos (isBareFlag_iff.1 h).1]
  rw [Bool.or_eq_true, Bool.and_eq_true, ← isWholeFlag_iff]
  exact not_isWholeFlag_of_isBareFlag h

/-- Any other argument belongs to the command. -/
theorem splitSettings_of_other (hwhole : ¬IsWholeFlag argument) (hbare : ¬IsBareFlag argument)
    (rest : List String) : splitSettings (argument :: rest) = ([], argument :: rest) := by
  have hcommand : ¬(isFlag argument Config.verifyFlag.long ||
      (valueFlags.any (isFlag argument) && hasValue argument)) = true := by
    rwa [Bool.or_eq_true, Bool.and_eq_true, ← isWholeFlag_iff]
  rw [splitSettings_cons, if_neg hcommand, if_neg]
  intro hany
  rw [isBareFlag_iff, not_and, Bool.not_eq_false] at hbare
  exact hwhole (isWholeFlag_iff.2 (.inr ⟨hany, hbare hany⟩))

/-- Settings are passed over, whatever comes behind them. -/
theorem IsSettings.splitSettings_append (h : IsSettings settings) (rest : List String) :
    splitSettings (settings ++ rest) =
      (settings ++ (splitSettings rest).1, (splitSettings rest).2) := by
  induction h with
  | nil => rfl
  | whole flag _ ih => rw [List.cons_append, splitSettings_of_whole flag, ih]; rfl
  | valued flag _ ih =>
      rw [List.cons_append, List.cons_append, splitSettings_of_bare flag]
      simp only [ih]
      rfl

/-- What arguments come apart into: flags of settings, and a command that starts with no such flag.
There is no command if the last flag lacks its value. -/
def ComesApart (settings command : List String) : Prop :=
  (IsSettings settings ∧
      ∀ argument ∈ command.head?, ¬IsWholeFlag argument ∧ ¬IsBareFlag argument) ∨
    (IsUnfinished settings ∧ command = [])

theorem ComesApart.whole (hflag : IsWholeFlag flag) (h : ComesApart settings command) :
    ComesApart (flag :: settings) command := by
  rcases h with ⟨hsettings, hcommand⟩ | ⟨⟨hfront, hlast⟩, hcommand⟩
  · exact .inl ⟨.whole hflag hsettings, hcommand⟩
  · exact .inr ⟨.mk (.whole hflag hfront) hlast, hcommand⟩

theorem ComesApart.valued (hflag : IsBareFlag flag) (value : String)
    (h : ComesApart settings command) : ComesApart (flag :: value :: settings) command := by
  rcases h with ⟨hsettings, hcommand⟩ | ⟨⟨hfront, hlast⟩, hcommand⟩
  · exact .inl ⟨.valued hflag hsettings, hcommand⟩
  · exact .inr ⟨.mk (.valued hflag hfront) hlast, hcommand⟩

theorem comesApart_splitSettings : ∀ arguments : List String,
    ComesApart (splitSettings arguments).1 (splitSettings arguments).2
  | [] => .inl ⟨.nil, nofun⟩
  | [argument] => by
      by_cases hwhole : IsWholeFlag argument
      · rw [splitSettings_of_whole hwhole]
        exact (comesApart_splitSettings []).whole hwhole
      by_cases hbare : IsBareFlag argument
      · rw [splitSettings_of_bare hbare]
        exact .inr ⟨.mk .nil hbare, rfl⟩
      · rw [splitSettings_of_other hwhole hbare]
        exact .inl ⟨.nil, by rintro _ ⟨⟩; exact ⟨hwhole, hbare⟩⟩
  | argument :: value :: rest => by
      by_cases hwhole : IsWholeFlag argument
      · rw [splitSettings_of_whole hwhole]
        exact (comesApart_splitSettings (value :: rest)).whole hwhole
      by_cases hbare : IsBareFlag argument
      · rw [splitSettings_of_bare hbare]
        exact (comesApart_splitSettings rest).valued hbare value
      · rw [splitSettings_of_other hwhole hbare]
        exact .inl ⟨.nil, by rintro _ ⟨⟩; exact ⟨hwhole, hbare⟩⟩

/-- There is one place only at which arguments come apart. -/
theorem ComesApart.splitSettings_eq (h : ComesApart settings command) :
    splitSettings (settings ++ command) = (settings, command) := by
  rcases h with ⟨hsettings, hcommand⟩ | ⟨⟨hfront, hlast⟩, rfl⟩
  · have hnone : splitSettings command = ([], command) := by
      cases command with
      | nil => rfl
      | cons argument rest =>
          obtain ⟨hwhole, hbare⟩ := hcommand argument rfl
          exact splitSettings_of_other hwhole hbare rest
    rw [hsettings.splitSettings_append, hnone, List.append_nil]
  · rw [List.append_nil, hfront.splitSettings_append, splitSettings_of_bare hlast]

end

/-- The arguments of a run come apart at the place where the command starts, and nothing of them is
lost. What stands there is neither a flag of settings nor the value of one, and what comes behind it
does not matter; what stands in front are flags of settings with their values, of which only the
last may lack its value, and then there is no command. -/
theorem splitArguments_comesApart (program : String) (rest : List String) :
    ∃ settings start, splitArguments (program :: rest) = ⟨settings, start⟩ ∧
      1 ≤ start ∧ start ≤ (program :: rest).length ∧
      settings = (program :: rest).take start ∧
      commandArguments (program :: rest) ⟨settings, start⟩ =
        program :: (program :: rest).drop start ∧
      (IsSettings (settings.drop 1) ∨
        IsUnfinished (settings.drop 1) ∧ start = (program :: rest).length) ∧
      ∀ token, (program :: rest)[start]? = some token →
        ¬IsWholeFlag token ∧ ¬IsBareFlag token ∧ IsSettings (settings.drop 1) ∧
          ∀ later, splitArguments ((program :: rest).take start ++ token :: later) =
            ⟨settings, start⟩ := by
  obtain ⟨settings, command, hsplit⟩ : ∃ settings command,
      splitSettings rest = (settings, command) := ⟨_, _, rfl⟩
  have happend := splitSettings_append rest
  have hapart := comesApart_splitSettings rest
  rw [hsplit] at happend hapart
  dsimp only at happend hapart
  have hlength : (program :: rest).length = settings.length + command.length + 1 := by
    rw [List.length_cons, ← happend, List.length_append]
  have htake : (program :: rest).take (settings.length + 1) = program :: settings := by
    rw [List.take_succ_cons, ← happend, List.take_left]
  have hdrop : (program :: rest).drop (settings.length + 1) = command := by
    rw [List.drop_succ_cons, ← happend, List.drop_left]
  refine ⟨program :: settings, settings.length + 1, ?_, Nat.le_add_left .., ?_, htake.symm, rfl, ?_,
    fun token htoken => ?_⟩
  · simp only [splitArguments, hsplit]
  · rw [hlength]
    exact Nat.succ_le_succ (Nat.le_add_right ..)
  · rcases hapart with ⟨hsettings, -⟩ | ⟨hsettings, hcommand⟩
    · exact .inl hsettings
    · exact .inr ⟨hsettings, by rw [hlength, hcommand, List.length_nil, Nat.add_zero]⟩
  · have hhead : command.head? = some token := by
      rw [← hdrop, List.head?_drop, htoken]
    rcases hapart with ⟨hsettings, hcommand⟩ | ⟨-, hcommand⟩
    · obtain ⟨hwhole, hbare⟩ := hcommand token hhead
      refine ⟨hwhole, hbare, hsettings, fun later => ?_⟩
      have hagain : ComesApart settings (token :: later) :=
        .inl ⟨hsettings, by rintro _ ⟨⟩; exact ⟨hwhole, hbare⟩⟩
      rw [htake, List.cons_append, splitArguments, hagain.splitSettings_eq]
    · rw [hcommand] at hhead
      cases hhead

end ClusterRpc.Cli
