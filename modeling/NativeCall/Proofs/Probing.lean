import Mathlib.Data.List.Forall2
import NativeCall.Posix.Kernel
import NativeCall.Probe.Run
import NativeCall.Proofs.Running

/-!
This module contains what a probe prints: nothing if anything goes wrong, and otherwise the result and
the bytes of every buffer.
-/

namespace NativeCall

namespace Text

theorem digitValue_digitChar : ∀ d < 16, digitValue 16 (digitChar d) = some d := by
  decide

theorem bytesOfHex?_hexBytes (bytes : List UInt8) : bytesOfHex? (hexBytes bytes) = some bytes := by
  unfold bytesOfHex? hexBytes
  rw [String.toList_ofList]
  induction bytes with
  | nil => rfl
  | cons b bytes ih =>
    have hlt := b.toNat_lt
    have hhigh := digitValue_digitChar (b.toNat / 16) (by omega)
    have hlow := digitValue_digitChar (b.toNat % 16) (by omega)
    have hb : UInt8.ofNat (16 * (b.toNat / 16) + b.toNat % 16) = b := by
      rw [Nat.div_add_mod]
      exact UInt8.ofNat_toNat
    simp only [List.flatMap_cons, List.cons_append, List.nil_append, bytesOfHex?.go, hhigh, hlow, ih,
      Option.bind_eq_bind, Option.bind_some, hb]
    rfl

end Text

namespace Probe

variable {κ η : Type}

/-- What an argument is once it is ready: the value that its text stands for, or a buffer of the size
that its text asks for. -/
inductive Prepared (overflow : Overflow) (text : String) : Ready → Prop where
  | value {v : Variant} (h : Argument.parse overflow text = .ok (.value v))
      : Prepared overflow text (.value v)
  | buffer {size : UInt64} (base : UInt64) (h : Argument.parse overflow text = .ok (.buffer size))
      : Prepared overflow text (.buffer ⟨base, size⟩)

/-- No argument asks for more bytes than can be allocated. -/
def Allocatable (overflow : Overflow) (raw : List String) : Prop :=
  ∀ text ∈ raw, ∀ size,
    Argument.parse overflow text = .ok (.buffer size) → size.toNat ≤ Buffer.maxSize

variable {overflow : Overflow}

theorem zeroed_of_le {size : UInt64} (h : size.toNat ≤ Buffer.maxSize) (m : Memory)
    : ∃ base memory, Buffer.zeroed size m = .ok (⟨base, size⟩, memory) := by
  unfold Buffer.zeroed Buffer.checkSize
  rw [if_neg (by omega)]
  have hsize : UInt64.ofNat (Array.replicate size.toNat (0 : UInt8)).size = size := by
    rw [Array.size_replicate]
    exact UInt64.ofNat_toNat
  unfold Buffer.ofBytes
  rw [hsize]
  exact ⟨_, _, rfl⟩

theorem prepare_cons (text : String) (rest : List String) (w : World κ η)
    : prepare overflow (text :: rest) w =
        match Argument.parse overflow text with
        | .error e => (.error (.argument e), w)
        | .ok argument =>
          match argument.prepare w with
          | (.error e, w') => (.error e, w')
          | (.ok first, w') =>
            match prepare overflow rest w' with
            | (.error e, w'') => (.error e, w'')
            | (.ok others, w'') => (.ok (first :: others), w'') := by
  rw [prepare]
  cases Argument.parse overflow text with
  | error e => rfl
  | ok argument =>
    dsimp only
    rw [Action.run_bind]
    rcases argument.prepare w with ⟨first, w'⟩
    cases first with
    | error e => rfl
    | ok first =>
      dsimp only
      rw [Action.run_bind]
      rcases prepare overflow rest w' with ⟨others, w''⟩
      cases others <;> rfl

theorem Argument.prepare_eq {text : String} {argument : Argument}
    (h : Argument.parse overflow text = .ok argument)
    (hsize : ∀ size, Argument.parse overflow text = .ok (.buffer size) → size.toNat ≤ Buffer.maxSize)
    (w : World κ η)
    : ∃ first memory, Prepared overflow text first ∧
        argument.prepare w = (.ok first, { w with memory := memory }) := by
  unfold prepare
  cases argument with
  | value v => exact ⟨.value v, w.memory, .value h, rfl⟩
  | buffer size =>
    have ⟨base, memory, hzeroed⟩ := zeroed_of_le (hsize size h) w.memory
    dsimp only
    rw [hzeroed]
    exact ⟨_, memory, .buffer base h, rfl⟩

theorem prepare_of_parsed {raw : List String} (hsizes : Allocatable overflow raw)
    (h : ∀ text ∈ raw, ∃ argument, Argument.parse overflow text = .ok argument) (w : World κ η)
    : ∃ ready memory, List.Forall₂ (Prepared overflow) raw ready ∧
        prepare overflow raw w = (.ok ready, { w with memory := memory }) := by
  induction raw generalizing w with
  | nil => exact ⟨[], w.memory, .nil, rfl⟩
  | cons text rest ih =>
    have ⟨⟨argument, hargument⟩, hrest⟩ := List.forall_mem_cons.mp h
    have ⟨hsize, hsizes⟩ := List.forall_mem_cons.mp hsizes
    have ⟨first, memory, hfirst, hprepare⟩ := Argument.prepare_eq hargument hsize w
    have ⟨others, memory', hothers, hprepare'⟩ := ih hsizes hrest { w with memory := memory }
    refine ⟨first :: others, memory', .cons hfirst hothers, ?_⟩
    rw [prepare_cons, hargument]
    dsimp only
    rw [hprepare]
    dsimp only
    rw [hprepare']

theorem prepare_of_unparsed {before : List String} {text : String} {e : ArgumentError}
    (hsizes : Allocatable overflow before)
    (h : ∀ earlier ∈ before, ∃ argument, Argument.parse overflow earlier = .ok argument)
    (he : Argument.parse overflow text = .error e) (after : List String) (w : World κ η)
    : ∃ memory, prepare overflow (before ++ text :: after) w =
        (.error (.argument e), { w with memory := memory }) := by
  induction before generalizing w with
  | nil =>
    refine ⟨w.memory, ?_⟩
    rw [List.nil_append, prepare_cons, he]
  | cons earlier before ih =>
    have ⟨⟨argument, hargument⟩, hrest⟩ := List.forall_mem_cons.mp h
    have ⟨hsize, hsizes⟩ := List.forall_mem_cons.mp hsizes
    have ⟨first, memory, _, hprepare⟩ := Argument.prepare_eq hargument hsize w
    have ⟨memory', hprepare'⟩ := ih hsizes hrest { w with memory := memory }
    refine ⟨memory', ?_⟩
    rw [List.cons_append, prepare_cons, hargument]
    dsimp only
    rw [hprepare]
    dsimp only
    rw [hprepare']

/-- The buffers among the arguments with their positions, which go up. -/
def buffersFrom (index : Nat) (ready : List Ready) : List (Nat × Buffer) :=
  (ready.zipIdx index).filterMap fun
    | (.buffer b, i) => some (i, b)
    | (.value _, _) => none

/-- The line shows the buffer at a position: the text behind the position spells its bytes, as many as
it has. -/
def Shows (memory : Memory) (place : Nat × Buffer) (line : String) : Prop :=
  ∃ shown bytes, line = s!"  arg {place.1}: {shown}" ∧ Text.bytesOfHex? shown = some bytes ∧
    bytes = place.2.toList memory ∧ bytes.length = place.2.size.toNat

theorem showBuffers_shows (memory : Memory) (index : Nat) (ready : List Ready)
    : List.Forall₂ (Shows memory) (buffersFrom index ready) (showBuffers memory index ready) := by
  induction ready generalizing index with
  | nil => exact .nil
  | cons first rest ih =>
    cases first with
    | value v => exact ih (index + 1)
    | buffer b =>
      refine .cons ⟨_, _, rfl, Text.bytesOfHex?_hexBytes _, rfl, ?_⟩ (ih (index + 1))
      unfold Buffer.toList Memory.read
      rw [List.length_map, List.length_range']

theorem current_eq (kernel : Kernel κ) (logger : Logger) (w : World κ η)
    : ∃ directory log errno, (logger = .undisturbing → errno = w.errno) ∧
        TrackedDirectory.current kernel logger w =
          (directory, { w with log := log, errno := errno }) := by
  have hget : (get : Action κ η (World κ η)) w = (w, w) := by rfl
  unfold TrackedDirectory.current
  rw [Action.run_bind, hget]
  dsimp only
  cases kernel.workingDirectory w.os with
  | ok path => exact ⟨_, w.log, w.errno, fun _ => rfl, rfl⟩
  | error e =>
    refine ⟨_, _, logger w.log (TrackedDirectory.unavailable e) w.errno, ?_, rfl⟩
    rintro rfl
    rfl

/-- The world in which the program makes its call: its logger has asked whether it writes to a terminal,
and two lines have been logged. -/
def callWorld (kernel : Kernel κ) (machine : Machine κ) (config : BindingConfig) :
    World κ TrackedDirectory :=
  let registry : Registry κ TrackedDirectory := Registry.builtIn config
  { (kernel.run (.isatty 2) machine).2 with
    span := none
    log := #[⟨.debug, .probe, s!"binding config: {config.inspect}"⟩, registry.announcement]
    host := ⟨Path.root⟩ }

section

variable {registry : Registry κ TrackedDirectory} {platform : Platform κ TrackedDirectory}
  {site operation : String} {raw : List String} {w : World κ TrackedDirectory}

theorem call_of_prepare_error {e : ProbeError} {after : World κ TrackedDirectory}
    (h : prepare overflow raw w = (.error e, after))
    : call registry platform overflow site operation raw w = (.error e, after) := by
  unfold call
  rw [Action.run_bind, h]
  rfl

variable (registry platform site operation) in
/-- The operation is called on what the arguments have come to, and its failure alone is reported. -/
theorem call_of_prepare_ok {ready : List Ready} {prepared : World κ TrackedDirectory}
    (h : prepare overflow raw w = (.ok ready, prepared))
    : ∃ start : World κ TrackedDirectory, start.os = prepared.os ∧ start.span = prepared.span ∧
        start.memory = prepared.memory ∧
        (platform.logger = .undisturbing → start.errno = prepared.errno) ∧
        call registry platform overflow site operation raw w =
          match registry.call platform site operation (ready.map Ready.variant) start with
          | (.error e, after) => (.error (.call operation raw e), after)
          | (.ok result, after) =>
            (.ok (result.display :: showBuffers after.memory 0 ready), after) := by
  have ⟨directory, log, errno, herrno, hcurrent⟩ :=
    current_eq platform.kernel platform.logger prepared
  refine ⟨{ prepared with log := log, errno := errno, host := directory }, rfl, rfl, rfl, herrno, ?_⟩
  unfold call
  rw [Action.run_bind, h]
  dsimp only
  rw [Action.run_bind, hcurrent, Action.run_bind, Action.run_modify, Action.run_bind]
  rcases registry.call platform site operation (ready.map Ready.variant) _ with ⟨result, after⟩
  cases result <;> rfl

theorem act_of_operation {options : Options} (hlist : options.list = false)
    (hoperation : options.operation = some operation) (kernel : Kernel κ) (setting : Setting)
    (machine : Machine κ) (config : BindingConfig)
    : (act (platformOf kernel) setting options config
        { machine with span := none, log := #[], host := ⟨Path.root⟩ }).1 =
        match (call (Registry.builtIn config) (platformOf kernel) setting.overflow setting.site
          operation options.arguments (callWorld kernel machine config)).1 with
        | .ok lines => .lines lines
        | .error e => .ofError e := by
  have hannounced : (Action.logLine (platformOf kernel).logger
      (Registry.builtIn config : Registry κ TrackedDirectory).announcement
      (Action.logLine (platformOf kernel).logger
        ⟨.debug, .probe, s!"binding config: {config.inspect}"⟩ ((platformOf kernel).run (.isatty 2)
          { machine with span := none, log := #[], host := ⟨Path.root⟩ }).2).2).2 =
      callWorld kernel machine config := by
    rfl
  unfold act
  simp only [Action.run_bind, hlist, hoperation, Bool.false_eq_true, ↓reduceIte]
  rw [hannounced]
  rcases call (Registry.builtIn config) (platformOf kernel) setting.overflow setting.site operation
    options.arguments (callWorld kernel machine config) with ⟨run, after⟩
  cases run <;> rfl

theorem output_of_operation {kernel : Kernel κ} {machine : Machine κ} {options : Options}
    {config : BindingConfig} (hconfig : configure kernel machine.os options = .ok config)
    (hlist : options.list = false) (hoperation : options.operation = some operation)
    (setting : Setting)
    : (runOptions kernel setting machine options).output =
        (call (Registry.builtIn config) (platformOf kernel) setting.overflow setting.site operation
          options.arguments (callWorld kernel machine config)).1.toOption.getD [] := by
  have hact := act_of_operation hlist hoperation kernel setting machine config
  unfold runOptions
  rw [hconfig]
  dsimp only
  generalize act (platformOf kernel) setting options config _ = run at hact ⊢
  rcases run with ⟨ending, world⟩
  dsimp only at hact ⊢
  rw [hact]
  rcases call (Registry.builtIn config) (platformOf kernel) setting.overflow setting.site operation
    options.arguments (callWorld kernel machine config) with ⟨result, after⟩
  cases result with
  | ok lines => rfl
  | error e =>
    rcases e with (_ | _ | _) | _ | _ <;> rfl

end

/-- A probe reports the first argument that cannot be read, or calls the operation with each argument at
its place; the program prints the result and the buffers of a call that succeeds and nothing else. -/
theorem call_all_or_nothing (overflow : Overflow) (raw : List String)
    (hsizes : Allocatable overflow raw) (w : World κ TrackedDirectory)
    : (∀ before text after e, raw = before ++ text :: after →
        (∀ earlier ∈ before, ∃ argument, Argument.parse overflow earlier = .ok argument) →
        Argument.parse overflow text = .error e →
          ∃ memory, ∀ registry platform site operation,
            call registry platform overflow site operation raw w =
              (.error (.argument e), { w with memory := memory })) ∧
      ((∀ text ∈ raw, ∃ argument, Argument.parse overflow text = .ok argument) →
        ∃ ready memory, List.Forall₂ (Prepared overflow) raw ready ∧
          ∀ (registry : Registry κ TrackedDirectory) platform site operation,
            ∃ start : World κ TrackedDirectory, start.os = w.os ∧ start.span = w.span ∧
              start.memory = memory ∧ (platform.logger = .undisturbing → start.errno = w.errno) ∧
              let run := registry.call platform site operation (ready.map Ready.variant) start
              (∀ e, run.1 = .error e →
                call registry platform overflow site operation raw w =
                  (.error (.call operation raw e), run.2)) ∧
              ∀ result, run.1 = .ok result →
                ∃ lines, List.Forall₂ (Shows run.2.memory) (buffersFrom 0 ready) lines ∧
                  call registry platform overflow site operation raw w =
                    (.ok (result.display :: lines), run.2)) ∧
      ∀ (kernel : Kernel κ) (setting : Setting) (machine : Machine κ) (options : Options) config
        operation, setting.overflow = overflow →
        configure kernel machine.os options = .ok config → options.list = false →
        options.operation = some operation → options.arguments = raw →
          (runOptions kernel setting machine options).output =
            (call (Registry.builtIn config) (platformOf kernel) overflow setting.site operation raw
              (callWorld kernel machine config)).1.toOption.getD [] := by
  refine ⟨?unparsed, ?parsed, ?program⟩
  case unparsed =>
    rintro before text after e rfl hbefore he
    have hsizes' : Allocatable overflow before := by
      intro earlier hmem
      exact hsizes earlier (List.mem_append_left _ hmem)
    have ⟨memory, hprepare⟩ := prepare_of_unparsed hsizes' hbefore he after w
    refine ⟨memory, ?_⟩
    intro registry platform site operation
    exact call_of_prepare_error hprepare
  case parsed =>
    intro hparsed
    have ⟨ready, memory, hready, hprepare⟩ := prepare_of_parsed hsizes hparsed w
    refine ⟨ready, memory, hready, ?_⟩
    intro registry platform site operation
    have ⟨start, hos, hspan, hmemory, herrno, hcall⟩ :=
      call_of_prepare_ok registry platform site operation hprepare
    refine ⟨start, hos, hspan, hmemory, herrno, ?_⟩
    intro run
    -- the memory behind the lines is the one that this call leaves, so it is named before it is split
    have hrun : run = registry.call platform site operation (ready.map Ready.variant) start := by rfl
    clear_value run
    rw [← hrun] at hcall
    rcases run with ⟨result, after⟩
    cases result with
    | error e =>
      refine ⟨?_, by simp⟩
      rintro e' ⟨⟩
      exact hcall
    | ok result =>
      refine ⟨by simp, ?_⟩
      rintro result' ⟨⟩
      exact ⟨showBuffers after.memory 0 ready, showBuffers_shows after.memory 0 ready, hcall⟩
  case program =>
    rintro kernel setting machine options config operation rfl hconfig hlist hoperation rfl
    exact output_of_operation hconfig hlist hoperation setting

/-- Three of the four bytes are set, so the fourth is shown as it was allocated. In the other probe the
second argument of three is the first that cannot be read. -/
theorem call_all_or_nothing_memset
    : let machine : Machine Posix := ⟨.fresh, ⟨5⟩, .initial⟩
      let w := callWorld Posix.kernel machine {}
      let raw := ["buf:4", "0x41", "3"]
      let options : Options := { operation := some "memset", arguments := raw }
      let lines := ["  arg 0: 41414100"]
      Allocatable .stops raw ∧
        (∃ ready memory, List.Forall₂ (Prepared .stops) raw ready ∧
          List.Forall₂ (Shows memory) (buffersFrom 0 ready) lines ∧
          (runOptions Posix.kernel ⟨.stops, none, "here"⟩ machine options).output =
            "ptr(0x550000000000, len=4)" :: lines) ∧
        (call (Registry.builtIn {}) (platformOf Posix.kernel) .stops "here" "memset"
          ["7", "buf:4x", ":"] w).1 = .error (.argument (.bufferLength "buf:4x" .invalidDigit)) := by
  intro machine w raw options lines
  have hsizes : Allocatable .stops ["buf:4", "0x41", "3"] := by
    intro text hmem size hsize
    rcases hmem with _ | ⟨_, _ | ⟨_, _ | ⟨_, ⟨⟩⟩⟩⟩ <;> cases hsize
    decide
  have hsizes' : Allocatable .stops ["7", "buf:4x", ":"] := by
    intro text hmem size hsize
    rcases hmem with _ | ⟨_, _ | ⟨_, _ | ⟨_, ⟨⟩⟩⟩⟩ <;> cases hsize
  refine ⟨hsizes, ?_, ?_⟩
  . have hparsed : ∀ text ∈ ["buf:4", "0x41", "3"],
        ∃ argument, Argument.parse .stops text = .ok argument := by
      intro text hmem
      rcases hmem with _ | ⟨_, _ | ⟨_, _ | ⟨_, ⟨⟩⟩⟩⟩ <;> exact ⟨_, rfl⟩
    have hrun : (call (Registry.builtIn {}) (platformOf Posix.kernel) .stops "here" "memset" raw
        w).1.toOption = some ("ptr(0x550000000000, len=4)" :: lines) := by
      decide +kernel
    have ⟨_, hcalled, hprogram⟩ := call_all_or_nothing .stops raw hsizes w
    have ⟨ready, memory, hready, hcalls⟩ := hcalled hparsed
    have ⟨start, _, _, _, _, hfails, hends⟩ :=
      hcalls (Registry.builtIn {}) (platformOf Posix.kernel) "here" "memset"
    have houtput := hprogram Posix.kernel ⟨.stops, none, "here"⟩ machine options {} "memset" rfl rfl
      rfl rfl rfl
    rcases hresult : (Registry.builtIn {}).call (platformOf Posix.kernel) "here" "memset"
      (ready.map Ready.variant) start with ⟨result, after⟩
    rw [hresult] at hfails hends
    cases result with
    | error e =>
      rw [hfails e rfl] at hrun
      cases hrun
    | ok result =>
      have ⟨shown, hshows, hcall⟩ := hends result rfl
      rw [hrun] at houtput
      refine ⟨ready, after.memory, hready, ?_, houtput⟩
      rw [hcall] at hrun
      have hlines : shown = lines := by
        exact (List.cons.inj (Option.some.inj hrun)).2
      exact hlines ▸ hshows
  . have ⟨memory, hcall⟩ := (call_all_or_nothing .stops ["7", "buf:4x", ":"] hsizes' w).1 ["7"]
      "buf:4x" [":"] _ rfl (by simpa using ⟨_, rfl⟩) rfl
    rw [hcall]

end Probe

end NativeCall
