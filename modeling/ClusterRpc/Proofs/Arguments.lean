import Mathlib.Data.List.TakeWhile
import ClusterRpc.Cli.Command

/-!
# Flags that are read from the arguments

Reading goes through the arguments from left to right and takes no flag back. A flag without a value
that a command knows is read wherever it stands before a `--`, be it by the command itself or by the
one that follows.
-/

namespace ClusterRpc.Arguments

section

variable {ε ε' α β : Type} {x : Except ε α}

theorem exists_of_bind_eq_ok {f : α → Except ε β} {b : β} (h : x >>= f = .ok b) :
    ∃ a, x = .ok a ∧ f a = .ok b := by
  cases x with
  | error e => cases h
  | ok a => exact ⟨a, rfl, h⟩

theorem eq_ok_of_mapError_eq_ok {f : ε → ε'} {a : α} (h : x.mapError f = .ok a) : x = .ok a := by
  cases x with
  | error e => cases h
  | ok b => exact congrArg Except.ok (Except.ok.inj h)

end

/-! ## What is read of a flag -/

namespace Reading

variable {r r' : Reading} {f : Flag} {value : String}

theorem isSome_flag?_of_prefix {long : String} (h : r.flags <+: r'.flags)
    (hr : (r.flag? long).isSome = true) : (r'.flag? long).isSome = true := by
  obtain ⟨more, hmore⟩ := h
  rw [flag?, ← hmore, List.lookup_append, Option.isSome_or]
  rw [flag?] at hr
  rw [hr]
  rfl

theorem flags_of_give (h : r.give f value = .ok r') : r'.flags = r.flags ++ [(f.long, value)] := by
  rw [give] at h
  split at h <;> cases h
  rfl

theorem isSome_flag?_of_give (h : r.give f value = .ok r') :
    (r'.flag? f.long).isSome = true := by
  rw [flag?, flags_of_give h, List.lookup_append, Option.isSome_or]
  simp

theorem prefix_of_give (h : r.give f value = .ok r') : r.flags <+: r'.flags := by
  rw [flags_of_give h]
  exact List.prefix_append ..

theorem prefix_of_settle (h : r.settle = .ok r') : r.flags <+: r'.flags := by
  rw [settle] at h
  split at h
  · cases h
    exact List.prefix_rfl
  · cases h
  · rw [flags_of_give h]
    exact List.prefix_append ..

theorem prefix_of_settle_give (h : (do (← r.settle).give f value) = .ok r') :
    r.flags <+: r'.flags := by
  obtain ⟨r₁, hsettle, h⟩ := exists_of_bind_eq_ok h
  exact (prefix_of_settle hsettle).trans (prefix_of_give h)

/-- A flag that takes a value awaits it, and one that takes none is given. -/
theorem settle_of_takeBare (h : r.takeBare f = .ok r') :
    ∃ r₁, r.settle = .ok r₁ ∧
      match f.value with
      | some _ => r' = { r₁ with pending := some (f, none) }
      | none => r₁.give f "" = .ok r' := by
  obtain ⟨r₁, hsettle, h⟩ := exists_of_bind_eq_ok h
  refine ⟨r₁, hsettle, ?_⟩
  by_cases hhelp : f = helpFlag
  · rw [if_pos hhelp] at h
    cases h
  rw [if_neg hhelp] at h
  cases hvalue : f.value with
  | none => simpa only [hvalue] using h
  | some value =>
      simp only [hvalue] at h
      cases h
      rfl

theorem prefix_of_takeBare (h : r.takeBare f = .ok r') : r.flags <+: r'.flags := by
  obtain ⟨r₁, hsettle, h⟩ := settle_of_takeBare h
  have hflags := prefix_of_settle hsettle
  split at h
  · subst h
    exact hflags
  · exact hflags.trans (prefix_of_give h)

theorem isSome_flag?_of_takeBare (h : r.takeBare f = .ok r') (hbare : f.value = none) :
    (r'.flag? f.long).isSome = true := by
  obtain ⟨r₁, -, h⟩ := settle_of_takeBare h
  rw [hbare] at h
  exact isSome_flag?_of_give h

end Reading

namespace Command

variable {c : Command} {r r' : Reading}

theorem prefix_of_longFlag {written : Text} (h : c.longFlag r written = .ok r') :
    r.flags <+: r'.flags := by
  rw [longFlag] at h
  split at h
  · cases h
  · exact Reading.prefix_of_takeBare h
  · dsimp only at h
    split at h
    · exact Reading.prefix_of_settle_give h
    · cases h

theorem prefix_of_shortFlags {letters : Text} (h : c.shortFlags r letters = .ok r') :
    r.flags <+: r'.flags := by
  induction letters generalizing r with
  | nil =>
      cases h
      exact List.prefix_rfl
  | cons letter rest ih =>
      rw [shortFlags] at h
      split at h
      · cases h
      · split at h
        · exact Reading.prefix_of_settle_give h
        · exact Reading.prefix_of_settle_give h
        · obtain ⟨r₁, hbare, h⟩ := exists_of_bind_eq_ok h
          exact (Reading.prefix_of_takeBare hbare).trans (ih h)

theorem prefix_of_takePlace {trailing : Bool} {argument : String}
    (h : c.takePlace r trailing argument = .ok r') : r.flags <+: r'.flags := by
  rw [takePlace] at h
  split at h
  · obtain ⟨r₁, hsettle, h⟩ := exists_of_bind_eq_ok h
    have hflags := Reading.prefix_of_settle hsettle
    cases h
    exact hflags
  · split at h <;> cases h

/-! ## Reading along the arguments -/

/-- An argument is read and reading goes on, or it is the command that follows. -/
theorem scan_cons {trailing : Bool} {argument : String} {rest : List String}
    (h : c.scan r trailing (argument :: rest) = .ok r') :
    (∃ r₁ trailing₁, c.scan r₁ trailing₁ rest = .ok r' ∧ r.flags <+: r₁.flags ∧
      (trailing₁ = true → trailing = true ∨ argument = "--")) ∨
    ((c.commands.lookup argument).isSome = true ∧ r'.next = some (argument, rest) ∧
      r.flags <+: r'.flags) := by
  rw [scan] at h
  split at h
  next htrailing =>
    obtain ⟨r₁, hplace, h⟩ := exists_of_bind_eq_ok h
    exact .inl ⟨r₁, true, h, prefix_of_takePlace hplace, fun _ => .inl htrailing⟩
  split at h
  next hcommand =>
    obtain ⟨r₁, hsettle, h⟩ := exists_of_bind_eq_ok h
    have hflags := Reading.prefix_of_settle hsettle
    cases h
    exact .inr ⟨(Bool.and_eq_true_iff.1 hcommand).2, rfl, hflags⟩
  refine .inl ?_
  split at h
  next hdashes =>
    exact ⟨r, true, h, List.prefix_rfl, fun _ => .inr (String.toList_injective hdashes)⟩
  next =>
    obtain ⟨r₁, hlong, h⟩ := exists_of_bind_eq_ok h
    exact ⟨r₁, false, h, prefix_of_longFlag hlong, nofun⟩
  next =>
    obtain ⟨r₁, hshort, h⟩ := exists_of_bind_eq_ok h
    exact ⟨r₁, false, h, prefix_of_shortFlags hshort, nofun⟩
  next =>
    split at h
    · exact ⟨_, false, h, List.prefix_rfl, nofun⟩
    · obtain ⟨r₁, hplace, h⟩ := exists_of_bind_eq_ok h
      exact ⟨r₁, false, h, prefix_of_takePlace hplace, nofun⟩

theorem prefix_of_scan {trailing : Bool} {arguments : List String}
    (h : c.scan r trailing arguments = .ok r') : r.flags <+: r'.flags := by
  induction arguments generalizing r trailing with
  | nil => exact Reading.prefix_of_settle h
  | cons argument rest ih =>
      rcases scan_cons h with ⟨r₁, trailing₁, h, hflags, -⟩ | ⟨-, -, hflags⟩
      · exact hflags.trans (ih h)
      · exact hflags

/-- A flag without a value that the command knows. -/
structure KnowsBare (c : Command) (f : Flag) : Prop where
  bare : f.value = none
  named : f.long.toList ≠ []
  plain : '=' ∉ f.long.toList
  known : c.flagWhere (fun g => g.long.toList == f.long.toList) = some f
  unlike : c.commands.lookup ("--" ++ f.long) = none

namespace KnowsBare

variable {f : Flag}

theorem longFlag (hf : c.KnowsBare f) : c.longFlag r f.long.toList = r.takeBare f := by
  have hname : f.long.toList.takeWhile (· != '=') = f.long.toList := by
    refine List.takeWhile_eq_self_iff.2 fun letter hletter => ?_
    rw [bne_iff_ne]
    rintro rfl
    exact hf.plain hletter
  rw [Command.longFlag]
  simp only [hname, List.drop_length, hf.known]

/-- The flag is read by the command that it is given to. -/
theorem isSome_flag?_of_scan (hf : c.KnowsBare f) {after : List String}
    (h : c.scan r false (("--" ++ f.long) :: after) = .ok r') :
    (r'.flag? f.long).isSome = true := by
  obtain ⟨letter, letters, hlong⟩ := List.exists_cons_of_ne_nil hf.named
  have hwritten : ("--" ++ f.long).toList = '-' :: '-' :: letter :: letters := by
    rw [String.toList_append, hlong]
    rfl
  rw [scan] at h
  simp only [Bool.false_eq_true, if_false, hf.unlike, Option.isSome_none, Bool.and_false,
    hwritten] at h
  rw [← hlong, hf.longFlag] at h
  obtain ⟨r₁, hbare, h⟩ := exists_of_bind_eq_ok h
  exact Reading.isSome_flag?_of_prefix (prefix_of_scan h)
    (Reading.isSome_flag?_of_takeBare hbare hf.bare)

/-- Before a `--` the flag is read wherever it stands, unless it is left to the command that
follows. -/
theorem scan (hf : c.KnowsBare f) {before after : List String} (hbefore : "--" ∉ before)
    (h : c.scan r false (before ++ ("--" ++ f.long) :: after) = .ok r') :
    (r'.flag? f.long).isSome = true ∨
    ∃ name front, (c.commands.lookup name).isSome = true ∧ "--" ∉ front ∧
      r'.next = some (name, front ++ ("--" ++ f.long) :: after) := by
  induction before generalizing r with
  | nil => exact .inl (hf.isSome_flag?_of_scan h)
  | cons argument rest ih =>
      have hrest : "--" ∉ rest := fun hmem => hbefore (List.mem_cons_of_mem _ hmem)
      rcases scan_cons h with ⟨r₁, trailing, h, -, htrailing⟩ | ⟨hcommand, hnext, -⟩
      · cases trailing with
        | false => exact ih hrest h
        | true =>
            -- Only a `--` makes the arguments behind it trailing.
            rcases htrailing rfl with hfalse | rfl
            · cases hfalse
            · exact absurd (List.mem_cons_self ..) hbefore
      · exact .inr ⟨argument, rest, hcommand, hrest, hnext⟩

end KnowsBare

theorem scan_of_read {arguments : List String} (h : c.read arguments = .ok r) :
    c.scan .empty false arguments = .ok r := by
  obtain ⟨r₁, hscan, h⟩ := exists_of_bind_eq_ok h
  by_cases hnext : r₁.next.isNone && !c.commands.isEmpty
  · rw [if_pos hnext] at h
    cases h
  rw [if_neg hnext] at h
  dsimp only at h
  split at h <;> cases h
  exact hscan

end Command

end ClusterRpc.Arguments

/-! ## The flag that keeps a run where it is -/

namespace ClusterRpc.Cli

open Arguments

/-- An order is read by the top command, and then by the one that follows. -/
theorem Order.exists_of_read {program : String} {arguments : List String} {order : Order}
    (h : Order.read program arguments = .ok order) :
    ∃ top c given, topCommand.read arguments = .ok top ∧
      (c = callCommand ∨ c = subscribeCommand) ∧
      c.read (top.next.getD ("", [])).2 = .ok given ∧
      order.allowRedirect =
        !((top.flag? redirectFlag.long).isSome || (given.flag? redirectFlag.long).isSome) := by
  obtain ⟨top, htop, h⟩ := exists_of_bind_eq_ok h
  obtain ⟨given, hgiven, h⟩ := exists_of_bind_eq_ok h
  refine ⟨top, _, given, eq_ok_of_mapError_eq_ok htop, ?_, eq_ok_of_mapError_eq_ok hgiven, ?_⟩
  · by_cases hname : (top.next.getD ("", [])).1 = "call"
    · exact .inl (if_pos hname)
    · exact .inr (if_neg hname)
  · cases h
    rfl

theorem knowsBare_redirectFlag {c : Arguments.Command}
    (hc : c = topCommand ∨ c = callCommand ∨ c = subscribeCommand) : c.KnowsBare redirectFlag := by
  rcases hc with rfl | rfl | rfl <;> exact ⟨rfl, by decide, by decide, by decide, by decide⟩

/-- Wherever it stands before a `--`, the flag keeps an order from leaving the configured
controller. -/
theorem allowRedirect_of_read {program : String} {before after : List String} {order : Order}
    (hbefore : "--" ∉ before)
    (h : Order.read program (before ++ "--no-redirect" :: after) = .ok order) :
    order.allowRedirect = false := by
  obtain ⟨top, c, given, htop, hc, hgiven, hallow⟩ := Order.exists_of_read h
  rw [hallow, Bool.not_eq_false', Bool.or_eq_true]
  rcases (knowsBare_redirectFlag (.inl rfl)).scan hbefore (Command.scan_of_read htop) with
    htold | ⟨name, front, -, hfront, hnext⟩
  · exact .inl htold
  · -- The command that follows has no commands of its own to leave the flag to.
    rw [hnext] at hgiven
    have hplain : c.commands = [] := by rcases hc with rfl | rfl <;> rfl
    rcases (knowsBare_redirectFlag (.inr hc)).scan hfront (Command.scan_of_read hgiven) with
      htold | ⟨name, front, hcommand, -⟩
    · exact .inr htold
    · rw [hplain] at hcommand
      cases hcommand

end ClusterRpc.Cli
