import NativeCall.Host.Tracking
import NativeCall.Posix.Kernel
import NativeCall.Proofs.Choice
import NativeCall.Proofs.Decoding
import NativeCall.Proofs.Settling

/-!
This module contains the reading of socket options: that options named by symbols are read as those
given by the numbers that the host has for the symbols.
-/

namespace NativeCall

variable {κ η : Type}

/-- What the host has for a level and an option that are named in the world `w`. It is asked for the
option only if it has the level. -/
inductive Host.Finds (host : Host κ η) (level option : String) (w : World κ η)
    : Except CallError (Int32 × Int32) → World κ η → Prop where
  | noLevel {w' : World κ η} (hlevel : host.socketConstant ("SOL_" ++ level) w = (none, w'))
      : Finds host level option w (.error (.unknownConstant ("SOL_" ++ level))) w'
  | noOption {l : Int32} {w₁ w' : World κ η}
      (hlevel : host.socketConstant ("SOL_" ++ level) w = (some l, w₁))
      (hoption : host.socketConstant ("SO_" ++ option) w₁ = (none, w'))
      : Finds host level option w (.error (.unknownConstant ("SO_" ++ option))) w'
  | both {l n : Int32} {w₁ w' : World κ η}
      (hlevel : host.socketConstant ("SOL_" ++ level) w = (some l, w₁))
      (hoption : host.socketConstant ("SO_" ++ option) w₁ = (some n, w'))
      : Finds host level option w (.ok (l, n)) w'

namespace Host

variable {host : Host κ η} {level option : String}

theorem exists_finds (host : Host κ η) (level option : String) (w : World κ η)
    : ∃ numbers w', host.Finds level option w numbers w' := by
  rcases hlevel : host.socketConstant ("SOL_" ++ level) w with ⟨_ | l, w₁⟩
  . exact ⟨_, _, .noLevel hlevel⟩
  . rcases hoption : host.socketConstant ("SO_" ++ option) w₁ with ⟨_ | n, w'⟩
    . exact ⟨_, _, .noOption hlevel hoption⟩
    . exact ⟨_, _, .both hlevel hoption⟩

theorem traced_socketConstant {name : String} {w w' : World κ η} {value : Option Int32}
    (h : host.socketConstant name w = (value, w')) (events : List Event)
    : host.traced.socketConstant name (w.traced events) =
        (value, w'.traced (events ++ [.constant name value])) := by
  change ((host.socketConstant name w).1, (host.socketConstant name w).2.traced
    (events ++ [.constant name (host.socketConstant name w).1])) = _
  rw [h]

theorem Finds.traced {platform : Platform κ η} {w w' : World κ η}
    {numbers : Except CallError (Int32 × Int32)}
    (h : platform.host.Finds level option w numbers w')
    : ∃ asked, asked.filter Event.isRequest = [] ∧
        ∀ events, platform.traced.host.Finds level option (w.traced events) numbers
          (w'.traced (events ++ asked)) := by
  cases h with
  | noLevel hlevel =>
    refine ⟨[.constant ("SOL_" ++ level) none], rfl, ?_⟩
    intro events
    exact .noLevel (traced_socketConstant hlevel events)
  | @noOption l w₁ _ hlevel hoption =>
    refine ⟨[.constant ("SOL_" ++ level) (some l), .constant ("SO_" ++ option) none], rfl, ?_⟩
    intro events
    apply Finds.noOption (traced_socketConstant hlevel events)
    rw [traced_socketConstant hoption, List.append_assoc]
    rfl
  | @both l n w₁ _ hlevel hoption =>
    refine ⟨[.constant ("SOL_" ++ level) (some l), .constant ("SO_" ++ option) (some n)], rfl, ?_⟩
    intro events
    apply Finds.both (traced_socketConstant hlevel events)
    rw [traced_socketConstant hoption, List.append_assoc]
    rfl

end Host

namespace CallPath

variable {platform : Platform κ η} {inv : Invocation} {index : Nat} {symbol : String}
  {w w' : World κ η}

theorem constant_of_found (hsymbol : inv.symbol index = .ok symbol) (fullName : String → String)
    {n : Int32} (hvalue : platform.host.socketConstant (fullName symbol) w = (some n, w'))
    : constant platform inv index fullName w = (.ok n, w') := by
  unfold constant
  rw [hsymbol, Call.run_bind, Call.run_liftExcept]
  dsimp only
  rw [Call.run_bind, Call.run_liftAction, hvalue]
  rfl

theorem constant_of_missing (hsymbol : inv.symbol index = .ok symbol) (fullName : String → String)
    (hvalue : platform.host.socketConstant (fullName symbol) w = (none, w'))
    : constant platform inv index fullName w =
        (.error (.unknownConstant (fullName symbol)), w') := by
  unfold constant
  rw [hsymbol, Call.run_bind, Call.run_liftExcept]
  dsimp only
  rw [Call.run_bind, Call.run_liftAction, hvalue]
  rfl

section

variable {level option : String} (hlevel : inv.symbol 1 = .ok level)
  (hoption : inv.symbol 2 = .ok option)
include hlevel hoption

theorem getsockoptByName_of_missing {e : CallError}
    (h : platform.host.Finds level option w (.error e) w')
    : getsockoptByName platform inv w = (.error e, w') := by
  unfold getsockoptByName
  rw [Call.run_bind]
  cases h with
  | noLevel hvalue =>
    rw [constant_of_missing hlevel SocketConstant.levelName hvalue]
    rfl
  | noOption hvalue hvalue' =>
    rw [constant_of_found hlevel SocketConstant.levelName hvalue]
    dsimp only
    rw [Call.run_bind, constant_of_missing hoption SocketConstant.optionName hvalue']
    rfl

theorem getsockoptByName_of_found {l n : Int32}
    (h : platform.host.Finds level option w (.ok (l, n)) w')
    : getsockoptByName platform inv w =
        nativeIn (fun memory inv => Request.socketOption memory inv l n) platform inv w' := by
  unfold getsockoptByName
  rw [Call.run_bind]
  cases h with
  | both hvalue hvalue' =>
    rw [constant_of_found hlevel SocketConstant.levelName hvalue]
    dsimp only
    rw [Call.run_bind, constant_of_found hoption SocketConstant.optionName hvalue']

end

end CallPath

/-- Where the shape does not leave the type open, it names it. -/
theorem Guard.map_typeName {guard : Guard} {args : List Variant}
    (h : List.Forall₂ Shape.Admits guard args) (hany : .any ∉ guard)
    : args.map Variant.typeName = guard.map Shape.name := by
  induction h with
  | nil => rfl
  | cons hadmits _ ih =>
    rw [List.mem_cons, not_or] at hany
    rw [List.map_cons, List.map_cons, ih hany.2]
    congr 1
    cases hadmits with
    | any => exact absurd rfl hany.1
    | nil | int | str | symbol | pointer => rfl

namespace Invocation

theorem cInt_of_int32 {inv : Invocation} {index : Nat} {n : Int32}
    (h : inv.args[index]? = some (.int n.toInt64)) : inv.cInt index = .ok n := by
  have hlow := n.le_toInt
  have hhigh := n.toInt_lt
  unfold cInt
  rw [bounded_eq_ite h, if_pos (by rw [Int32.toInt_toInt64]; omega)]
  exact congrArg Except.ok n.toInt32_toInt64

end Invocation

namespace Request

def optionByNumbers (fd : Int64) (l n : Int32) (value length : Pointer) : List Variant :=
  [.int fd, .int l.toInt64, .int n.toInt64, .pointer value, .pointer length]

def optionBySymbols (fd : Int64) (level option : String) (value length : Pointer)
    : List Variant :=
  [.int fd, .symbol level, .symbol option, .pointer value, .pointer length]

def option (fd : Int64) (value length : Pointer) (memory : Memory) (l n : Int32)
    : Except CallError Plan :=
  socketOption memory ⟨"_getsockopt", optionByNumbers fd l n value length⟩ l n

end Request

namespace Table

theorem find?_getsockopt (config : BindingConfig)
    : (Registry.builtIn config : Registry κ η).find? "_getsockopt" = some getsockopt := by
  rfl

variable (platform : Platform κ η) (w : World κ η) (fd : Int64) (value length : Pointer)

theorem option_ne_redispatch (m : Machine κ) (l n : Int32) (substituted : List Variant)
    : (platform.kernel.carryOut m (Request.option fd value length m.memory l n)).1 ≠
        .ok (.redispatch substituted) := by
  apply Kernel.carryOut_ne_redispatch
  intro plan hplan
  exact ((Request.socketOption_sound m.memory _ l n).value plan hplan).final

theorem dispatch_of_numbers (l n : Int32)
    : dispatch "_getsockopt" getsockopt.arms platform
        (Request.optionByNumbers fd l n value length) w =
          ((platform.kernel.carryOut w.toMachine (Request.option fd value length w.memory l n)).1,
            { w with toMachine := (platform.kernel.carryOut w.toMachine
              (Request.option fd value length w.memory l n)).2 }) := by
  have hdecoded : Request.getsockopt w.memory
      ⟨"_getsockopt", Request.optionByNumbers fd l n value length⟩ =
        Request.option fd value length w.memory l n := by
    unfold Request.getsockopt
    rw [Invocation.cInt_of_int32 (n := l) rfl, Invocation.cInt_of_int32 (n := n) rfl]
    rfl
  rw [← hdecoded]
  refine Dispatch.dispatch_of_final rfl (CallPath.nativeIn_eq Request.getsockopt platform _ w) ?_
  rw [hdecoded]
  apply option_ne_redispatch

variable {platform w} {level option : String} {w' : World κ η}

theorem dispatch_of_found {l n : Int32} (h : platform.host.Finds level option w (.ok (l, n)) w')
    : dispatch "_getsockopt" getsockopt.arms platform
        (Request.optionBySymbols fd level option value length) w =
          ((platform.kernel.carryOut w'.toMachine (Request.option fd value length w'.memory l n)).1,
            { w' with toMachine := (platform.kernel.carryOut w'.toMachine
              (Request.option fd value length w'.memory l n)).2 }) := by
  have hpath : CallPath.getsockoptByName platform
      ⟨"_getsockopt", Request.optionBySymbols fd level option value length⟩ w = _ :=
    CallPath.getsockoptByName_of_found rfl rfl h
  refine Dispatch.dispatch_of_final rfl (hpath.trans (CallPath.nativeIn_eq _ platform _ w')) ?_
  apply option_ne_redispatch

theorem dispatch_of_missing {e : CallError} (h : platform.host.Finds level option w (.error e) w')
    : dispatch "_getsockopt" getsockopt.arms platform
        (Request.optionBySymbols fd level option value length) w = (.error e, w') := by
  have hpath : CallPath.getsockoptByName platform
      ⟨"_getsockopt", Request.optionBySymbols fd level option value length⟩ w = _ :=
    CallPath.getsockoptByName_of_missing rfl rfl h
  exact Dispatch.dispatch_of_final rfl hpath nofun

theorem select_of_unmatched {args : List Variant}
    (hnumbers : args.map Variant.typeName ≠ ["int", "int", "int", "pointer", "pointer"])
    (hsymbols : args.map Variant.typeName ≠ ["int", "symbol", "symbol", "pointer", "pointer"])
    : Dispatch.select "_getsockopt" (getsockopt : Operation κ η).arms args =
        .error (Dispatch.noMatch "_getsockopt" args) := by
  rw [Dispatch.select_eq_error_iff]
  refine ⟨rfl, ?_⟩
  intro arm hmem hfits
  unfold getsockopt at hmem
  simp only [List.mem_cons, List.not_mem_nil, or_false] at hmem
  rcases hmem with rfl | rfl
  . exact hnumbers (Guard.map_typeName hfits (by simp [armIn]))
  . exact hsymbols (Guard.map_typeName hfits (by simp))

end Table

namespace Registry

variable (config : BindingConfig) (platform : Platform κ η) (site : String) (fd : Int64)
  (value length : Pointer) {level option : String} {w w' : World κ η}

theorem numbers_comesDownTo (hspan : w.span = none) (l n : Int32)
    : ComesDownTo config platform site Table.getsockopt
        (Request.optionByNumbers fd l n value length) w w.toMachine
        (Request.option fd value length w.memory l n) := by
  have hrun := Table.dispatch_of_numbers platform.traced
    ((inside config site "_getsockopt" (Request.optionByNumbers fd l n value length) w).traced [])
    fd value length l n
  exact comesDownTo_of_dispatch (Table.find?_getsockopt config) rfl ⟨rfl, nofun, hspan⟩ rfl hrun

theorem symbols_comesDownTo (hspan : w.span = none) {l n : Int32}
    (h : platform.host.Finds level option
      (inside config site "_getsockopt" (Request.optionBySymbols fd level option value length) w)
      (.ok (l, n)) w')
    : ComesDownTo config platform site Table.getsockopt
        (Request.optionBySymbols fd level option value length) w w'.toMachine
        (Request.option fd value length w'.memory l n) := by
  have ⟨asked, hasked, htraced⟩ := h.traced
  have hrun := Table.dispatch_of_found fd value length (htraced [])
  exact comesDownTo_of_dispatch (Table.find?_getsockopt config) rfl ⟨rfl, nofun, hspan⟩ hasked hrun

theorem symbols_givesUp (hspan : w.span = none) {e : CallError}
    (h : platform.host.Finds level option
      (inside config site "_getsockopt" (Request.optionBySymbols fd level option value length) w)
      (.error e) w')
    : GivesUp config platform site "_getsockopt"
        (Request.optionBySymbols fd level option value length) w e w'.toMachine := by
  have ⟨asked, hasked, htraced⟩ := h.traced
  have hrun := Table.dispatch_of_missing fd value length (htraced [])
  have hcomes : ComesDownTo config platform site Table.getsockopt
      (Request.optionBySymbols fd level option value length) w w'.toMachine (.error e) := by
    exact comesDownTo_of_dispatch (v := w'.traced asked) (Table.find?_getsockopt config) rfl
      ⟨rfl, nofun, hspan⟩ hasked hrun
  exact hcomes.givesUp

theorem option_unmatched {args : List Variant} (hlength : args.length = 5) (hspan : w.span = none)
    (hnumbers : args.map Variant.typeName ≠ ["int", "int", "int", "pointer", "pointer"])
    (hsymbols : args.map Variant.typeName ≠ ["int", "symbol", "symbol", "pointer", "pointer"])
    : GivesUp config platform site "_getsockopt" args w
        (.noMatchingArm "_getsockopt" (", ".intercalate (args.map Variant.typeName)))
        w.toMachine := by
  have hadmits : (⟨Table.getsockopt, config⟩ : BoundOperation (Traced κ) η).Admits args
      (w.traced []) := by
    exact ⟨hlength, nofun, hspan⟩
  exact givesUp_of_unmatched (Table.find?_getsockopt config) rfl hadmits
    (Table.select_of_unmatched hnumbers hsymbols)

/-- Symbols that the host has numbers for make the call that the numbers make; the first that it lacks is
an error, whatever the pointers are. -/
theorem getsockopt_by_name (w : World κ η)
    : (∀ fd value length level option, w.span = none →
        let symbols := Request.optionBySymbols fd level option value length
        let asking := inside config site "_getsockopt" symbols w
        (∃ numbers w', platform.host.Finds level option asking numbers w') ∧
          (∀ e w', platform.host.Finds level option asking (.error e) w' →
            GivesUp config platform site "_getsockopt" symbols w e w'.toMachine) ∧
          ∀ l n w', platform.host.Finds level option asking (.ok (l, n)) w' →
            ∀ u : World κ η, u.span = none → u.toMachine = w'.toMachine →
              SameCall config platform site "_getsockopt" symbols w
                (Request.optionByNumbers fd l n value length) u) ∧
      (∀ args : List Variant, args.length = 5 → w.span = none →
        args.map Variant.typeName ∉
          [["int", "int", "int", "pointer", "pointer"],
            ["int", "symbol", "symbol", "pointer", "pointer"]] →
        GivesUp config platform site "_getsockopt" args w
          (.noMatchingArm "_getsockopt" (", ".intercalate (args.map Variant.typeName)))
          w.toMachine) ∧
      ∀ (args : List Variant) active, args.length = 5 → w.span = some active →
        TurnedDown config platform site "_getsockopt" args w
          (.reentrant "_getsockopt" active) := by
  refine ⟨?_, ?_, ?_⟩
  . intro fd value length level option hspan symbols asking
    refine ⟨?_, ?_, ?_⟩
    . apply Host.exists_finds
    . intro e w' hfinds
      exact symbols_givesUp config platform site fd value length hspan hfinds
    . intro l n w' hfinds u hspan' hmachine
      have hsymbols := symbols_comesDownTo config platform site fd value length hspan hfinds
      have hnumbers := numbers_comesDownTo config platform site fd value length hspan' l n
      rw [hmachine] at hnumbers
      exact hsymbols.sameCall hnumbers
  . intro args hlength hspan htypes
    rw [List.mem_cons, List.mem_singleton, not_or] at htypes
    exact option_unmatched config platform site hlength hspan htypes.1 htypes.2
  . intro args active hlength hspan
    exact turnedDown_of_open (Table.find?_getsockopt config) hlength nofun hspan

theorem getsockopt_by_name_reuseaddr
    : let platform : Platform Posix TrackedDirectory :=
        ⟨Posix.kernel, .tracking Posix.kernel, .undisturbing⟩
      let w : World Posix TrackedDirectory :=
        ⟨⟨.fresh, ⟨0⟩, .initial⟩, none, #[], ⟨Path.root⟩⟩
      let value : Pointer := ⟨16, some 4⟩
      let length : Pointer := ⟨32, some 4⟩
      SameCall {} platform "here" "_getsockopt"
          [.int 0, .symbol "SOCKET", .symbol "REUSEADDR", .pointer value, .pointer length] w
          [.int 0, .int 1, .int 2, .pointer value, .pointer length] w ∧
        (requests {} platform "here" "_getsockopt"
          [.int 0, .int 1, .int 2, .pointer value, .pointer length] w).length = 1 ∧
        GivesUp {} platform "here" "_getsockopt"
          [.int 0, .symbol "SOCKET", .symbol "NOPE", .pointer value, .pointer length] w
          (.unknownConstant "SO_NOPE") w.toMachine ∧
        GivesUp {} platform "here" "_getsockopt"
          [.int 0, .symbol "SOCKET", .int 2, .pointer value, .pointer length] w
          (.noMatchingArm "_getsockopt" "int, symbol, int, pointer, pointer") w.toMachine := by
  intro platform w value length
  have ⟨hby, hunmatched, _⟩ := getsockopt_by_name {} platform "here" w
  have ⟨_, _, hfound⟩ := hby 0 value length "SOCKET" "REUSEADDR" rfl
  have ⟨_, hmissing, _⟩ := hby 0 value length "SOCKET" "NOPE" rfl
  have hboth : ∀ v, platform.host.Finds "SOCKET" "REUSEADDR" v (.ok (1, 2)) v := by
    intro v
    exact .both rfl rfl
  have hlacks : ∀ v,
      platform.host.Finds "SOCKET" "NOPE" v (.error (.unknownConstant "SO_NOPE")) v := by
    intro v
    exact .noOption rfl rfl
  have hgivesUp := hmissing _ _ (hlacks _)
  refine ⟨hfound 1 2 _ (hboth _) w rfl rfl, ?_, hgivesUp, hunmatched _ rfl rfl (by decide)⟩
  decide +kernel

end Registry

end NativeCall
