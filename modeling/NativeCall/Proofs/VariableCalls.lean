import NativeCall.Host.Tracking
import NativeCall.Proofs.Reentry
import NativeCall.Proofs.Settling
import NativeCall.Proofs.Variables

/-!
This module contains the calls on variables of the environment: texts that are stored under names are
got back, and what is no name or no native string is refused.
-/

namespace NativeCall

variable {κ η : Type}

namespace Table

theorem find?_getenv (config : BindingConfig)
    : (Registry.builtIn config : Registry κ η).find? "getenv" = some getenv := by
  rfl

theorem find?_setenv (config : BindingConfig)
    : (Registry.builtIn config : Registry κ η).find? "setenv" = some setenv := by
  rfl

theorem find?_unsetenv (config : BindingConfig)
    : (Registry.builtIn config : Registry κ η).find? "unsetenv" = some unsetenv := by
  rfl

end Table

namespace Request

variable (memory : Memory) (inv : Invocation)

theorem setenv_sound : Decodes (setenv inv) (Plan.Sound .passThrough memory inv.args) := by
  unfold setenv
  apply Decodes.step
  intro name
  apply Decodes.step
  intro value
  apply Decodes.step
  intro overwrite
  exact .status rfl (by decide)

theorem unsetenv_sound : Decodes (unsetenv inv) (Plan.Sound .passThrough memory inv.args) := by
  unfold unsetenv
  apply Decodes.step
  intro name
  exact .status rfl (by decide)

end Request

namespace Registry

variable (config : BindingConfig) (platform : Platform κ η) (site : String) {w : World κ η}
  {text new : String} {name value : CString} {overwrite : Int64} {decoded : Except CallError Plan}

theorem getenv_comesDownTo (hspan : w.span = none)
    (hdecode : Request.getenv ⟨"getenv", [.str text]⟩ = decoded)
    : ComesDownTo config platform site Table.getenv [.str text] w w.toMachine decoded := by
  subst hdecode
  refine comesDownTo_of_single (Table.find?_getenv config) rfl (by decide) hspan rfl rfl ?_
  intro plan hplan
  exact ((Request.getenv_sound w.memory _).value plan hplan).final

theorem setenv_comesDownTo (hspan : w.span = none)
    (hdecode : Request.setenv ⟨"setenv", [.str text, .str new, .int overwrite]⟩ = decoded)
    : ComesDownTo config platform site Table.setenv [.str text, .str new, .int overwrite] w
        w.toMachine decoded := by
  subst hdecode
  refine comesDownTo_of_single (Table.find?_setenv config) rfl (by decide) hspan rfl rfl ?_
  intro plan hplan
  exact ((Request.setenv_sound w.memory _).value plan hplan).final

theorem unsetenv_comesDownTo (hspan : w.span = none)
    (hdecode : Request.unsetenv ⟨"unsetenv", [.str text]⟩ = decoded)
    : ComesDownTo config platform site Table.unsetenv [.str text] w w.toMachine decoded := by
  subst hdecode
  refine comesDownTo_of_single (Table.find?_unsetenv config) rfl (by decide) hspan rfl rfl ?_
  intro plan hplan
  exact ((Request.unsetenv_sound w.memory _).value plan hplan).final

section Settled

variable (hspan : w.span = none) (htext : CString.ofText? text = some name)
include hspan htext

theorem getenv_call
    : ((builtIn config).call platform site "getenv" [.str text] w).1 =
          .ok (Variant.ofOption (fun bytes => .str (Text.decodeLossy bytes))
            (platform.kernel.run (.getenv name) w.toMachine).1) ∧
        ((builtIn config).call platform site "getenv" [.str text] w).2.toMachine =
          (platform.kernel.run (.getenv name) w.toMachine).2 := by
  have hdecode : Request.getenv ⟨"getenv", [.str text]⟩ =
      .ok (.value (.getenv name) (Variant.ofOption fun bytes => .str (Text.decodeLossy bytes))) := by
    unfold Request.getenv
    rw [Invocation.cString_of_text rfl htext]
    rfl
  exact (getenv_comesDownTo config platform site hspan hdecode).tells rfl

theorem setenv_call (hnew : CString.ofText? new = some value)
    (hnarrow : -2 ^ 31 ≤ overwrite.toInt ∧ overwrite.toInt < 2 ^ 31)
    : let p := Primitive.setenv name value overwrite.toInt32
      let set := (builtIn config).call platform site "setenv"
        [.str text, .str new, .int overwrite] w
      set.1 = .ok (.int (platform.kernel.run p w.toMachine).1) ∧
        set.2.toMachine = (platform.kernel.run p w.toMachine).2 := by
  have hdecode : Request.setenv ⟨"setenv", [.str text, .str new, .int overwrite]⟩ =
      .ok (.status (.setenv name value overwrite.toInt32)) := by
    unfold Request.setenv
    rw [Invocation.cString_of_text rfl htext, Invocation.cString_of_text rfl hnew,
      Invocation.cInt_of_narrow rfl hnarrow]
    rfl
  exact (setenv_comesDownTo config platform site hspan hdecode).passes rfl nofun

theorem unsetenv_call
    : let unset := (builtIn config).call platform site "unsetenv" [.str text] w
      unset.1 = .ok (.int (platform.kernel.run (.unsetenv name) w.toMachine).1) ∧
        unset.2.toMachine = (platform.kernel.run (.unsetenv name) w.toMachine).2 := by
  have hdecode : Request.unsetenv ⟨"unsetenv", [.str text]⟩ = .ok (.status (.unsetenv name)) := by
    unfold Request.unsetenv
    rw [Invocation.cString_of_text rfl htext]
    rfl
  exact (unsetenv_comesDownTo config platform site hspan hdecode).passes rfl nofun

end Settled

section GivenUp

variable (hspan : w.span = none)
include hspan

theorem getenv_givesUp (hzero : '\x00' ∈ text.toList)
    : GivesUp config platform site "getenv" [.str text] w (.interiorNul "getenv" 0)
        w.toMachine := by
  have hdecode : Request.getenv ⟨"getenv", [.str text]⟩ = .error (.interiorNul "getenv" 0) := by
    unfold Request.getenv
    rw [Invocation.cString_of_zero rfl (CString.ofText?_eq_none.mpr hzero)]
    rfl
  exact (getenv_comesDownTo config platform site hspan hdecode).givesUp

theorem unsetenv_givesUp (hzero : '\x00' ∈ text.toList)
    : GivesUp config platform site "unsetenv" [.str text] w (.interiorNul "unsetenv" 0)
        w.toMachine := by
  have hdecode : Request.unsetenv ⟨"unsetenv", [.str text]⟩ =
      .error (.interiorNul "unsetenv" 0) := by
    unfold Request.unsetenv
    rw [Invocation.cString_of_zero rfl (CString.ofText?_eq_none.mpr hzero)]
    rfl
  exact (unsetenv_comesDownTo config platform site hspan hdecode).givesUp

theorem setenv_givesUp_name (hzero : '\x00' ∈ text.toList)
    : GivesUp config platform site "setenv" [.str text, .str new, .int overwrite] w
        (.interiorNul "setenv" 0) w.toMachine := by
  have hdecode : Request.setenv ⟨"setenv", [.str text, .str new, .int overwrite]⟩ =
      .error (.interiorNul "setenv" 0) := by
    unfold Request.setenv
    rw [Invocation.cString_of_zero rfl (CString.ofText?_eq_none.mpr hzero)]
    rfl
  exact (setenv_comesDownTo config platform site hspan hdecode).givesUp

theorem setenv_givesUp_value (hfree : '\x00' ∉ text.toList) (hzero : '\x00' ∈ new.toList)
    : GivesUp config platform site "setenv" [.str text, .str new, .int overwrite] w
        (.interiorNul "setenv" 1) w.toMachine := by
  have ⟨name, htext, _⟩ := CString.ofText?_eq_some hfree
  have hdecode : Request.setenv ⟨"setenv", [.str text, .str new, .int overwrite]⟩ =
      .error (.interiorNul "setenv" 1) := by
    unfold Request.setenv
    rw [Invocation.cString_of_text rfl htext,
      Invocation.cString_of_zero rfl (CString.ofText?_eq_none.mpr hzero)]
    rfl
  exact (setenv_comesDownTo config platform site hspan hdecode).givesUp

end GivenUp

def told (text : String) (w : World κ η) : Except CallError Variant :=
  ((builtIn config).call platform site "getenv" [.str text] w).1

section Variables

variable {valueOf : κ → List UInt8 → Option (List UInt8)}
  (hkernel : platform.kernel.KeepsVariables valueOf)
include hkernel

theorem told_eq (hspan : w.span = none) (hfree : '\x00' ∉ text.toList)
    : told config platform site text w =
        .ok (Variant.ofOption (fun bytes => .str (Text.decodeLossy bytes))
          (valueOf w.os (Text.encode text))) := by
  have ⟨name, htext, hbytes⟩ := CString.ofText?_eq_some hfree
  have ⟨hresult, _⟩ := getenv_call config platform site hspan htext
  unfold told
  rw [hresult, (hkernel.getenv name w.toMachine).1, hbytes]

theorem told_nil_iff (hspan : w.span = none) (hfree : '\x00' ∉ text.toList)
    : told config platform site text w = .ok .nil ↔ valueOf w.os (Text.encode text) = none := by
  rw [told_eq config platform site hkernel hspan hfree]
  cases valueOf w.os (Text.encode text) <;> simp [Variant.ofOption]

/-- Only the value of the name matters, and of a text that is no name nothing does. -/
theorem told_congr {w' : World κ η} (hspan : w.span = none) (hspan' : w'.span = none)
    (h : valueOf w'.os (Text.encode text) = valueOf w.os (Text.encode text))
    : told config platform site text w' = told config platform site text w := by
  by_cases hzero : '\x00' ∈ text.toList
  . exact (getenv_givesUp config platform site hspan' hzero).result.trans
      (getenv_givesUp config platform site hspan hzero).result.symm
  . rw [told_eq config platform site hkernel hspan hzero,
      told_eq config platform site hkernel hspan' hzero, h]

theorem getenv_keeps (hspan : w.span = none) (other : String)
    : told config platform site other
        ((builtIn config).call platform site "getenv" [.str text] w).2 =
          told config platform site other w := by
  apply told_congr config platform site hkernel hspan
  . exact (call_keepsSpan_of_unhooked (Table.find?_getenv config) rfl platform site _ w).trans hspan
  . by_cases hzero : '\x00' ∈ text.toList
    . rw [congrArg Machine.os (getenv_givesUp config platform site hspan hzero).machine]
    . have ⟨name, htext, _⟩ := CString.ofText?_eq_some hzero
      have ⟨_, hmachine⟩ := getenv_call config platform site hspan htext
      rw [congrArg Machine.os hmachine, (hkernel.getenv name w.toMachine).2]

section Changed

variable {w' : World κ η} (hspan : w.span = none) (hspan' : w'.span = none)
  (hfree : '\x00' ∉ text.toList)
include hspan hspan' hfree

/-- A value is stored only if there was none or it is to be overwritten. -/
theorem told_of_stored
    (h : ∀ other : String, valueOf w'.os (Text.encode other) =
      if other = text ∧ (overwrite ≠ 0 ∨ valueOf w.os (Text.encode text) = none)
      then some (Text.encode new)
      else valueOf w.os (Text.encode other))
    : let stores := overwrite ≠ 0 ∨ told config platform site text w = .ok .nil
      (stores → told config platform site text w' = .ok (.str new)) ∧
        (¬ stores → told config platform site text w' = told config platform site text w) ∧
        ∀ other, other ≠ text →
          told config platform site other w' = told config platform site other w := by
  intro stores
  have hstores : stores ↔ overwrite ≠ 0 ∨ valueOf w.os (Text.encode text) = none :=
    or_congr_right (told_nil_iff config platform site hkernel hspan hfree)
  refine ⟨?_, ?_, ?_⟩
  . intro hwritten
    rw [told_eq config platform site hkernel hspan' hfree, h, if_pos ⟨rfl, hstores.mp hwritten⟩]
    exact congrArg (Except.ok ∘ Variant.str) (Text.decodeLossy_encode new)
  . intro hkept
    apply told_congr config platform site hkernel hspan hspan'
    rw [h, if_neg fun hwritten => hkept (hstores.mpr hwritten.2)]
  . intro other hother
    apply told_congr config platform site hkernel hspan hspan'
    rw [h, if_neg fun hwritten => hother hwritten.1]

theorem told_of_erased
    (h : ∀ other : String, valueOf w'.os (Text.encode other) =
      if other = text then none else valueOf w.os (Text.encode other))
    : told config platform site text w' = .ok .nil ∧
        ∀ other, other ≠ text →
          told config platform site other w' = told config platform site other w := by
  constructor
  . apply (told_nil_iff config platform site hkernel hspan' hfree).mpr
    rw [h, if_pos rfl]
  . intro other hother
    apply told_congr config platform site hkernel hspan hspan'
    rw [h, if_neg hother]

end Changed

section Accepted

variable (hspan : w.span = none) (hname : text ≠ "" ∧ '=' ∉ text.toList)
  (hfree : '\x00' ∉ text.toList)
include hspan hname hfree

theorem setenv_accepted (hnew : '\x00' ∉ new.toList)
    (hnarrow : -2 ^ 31 ≤ overwrite.toInt ∧ overwrite.toInt < 2 ^ 31)
    : ((builtIn config).call platform site "setenv" [.str text, .str new, .int overwrite] w).1 =
          .ok (.int 0) ∧
        ∀ other : String,
          valueOf ((builtIn config).call platform site "setenv"
            [.str text, .str new, .int overwrite] w).2.os (Text.encode other) =
              if other = text ∧ (overwrite ≠ 0 ∨ valueOf w.os (Text.encode text) = none)
              then some (Text.encode new)
              else valueOf w.os (Text.encode other) := by
  have ⟨name, htext, hbytes⟩ := CString.ofText?_eq_some hfree
  have ⟨value, hvalue, hbytes'⟩ := CString.ofText?_eq_some hnew
  -- the system gets a narrower number, and takes every number but zero for a yes
  have hzero : overwrite.toInt32 ≠ 0 ↔ overwrite ≠ 0 := by
    rw [ne_eq, ne_eq, ← Int32.toInt_inj, ← Int64.toInt_inj, Invocation.toInt_toInt32 hnarrow]
    rfl
  have hisName := (Environment.isName_bytes hbytes).mpr hname
  have ⟨hresult, hmachine⟩ := setenv_call config platform site hspan htext hvalue hnarrow
  have ⟨hanswer, hafter⟩ := hkernel.setenv name value overwrite.toInt32 w.toMachine hisName
  refine ⟨hresult.trans (by rw [hanswer]), ?_⟩
  intro other
  rw [congrArg Machine.os hmachine, hafter, hbytes, hbytes']
  simp only [Text.encode_inj, hzero]

theorem unsetenv_accepted
    : ((builtIn config).call platform site "unsetenv" [.str text] w).1 = .ok (.int 0) ∧
        ∀ other : String,
          valueOf ((builtIn config).call platform site "unsetenv" [.str text] w).2.os
            (Text.encode other) =
              if other = text then none else valueOf w.os (Text.encode other) := by
  have ⟨name, htext, hbytes⟩ := CString.ofText?_eq_some hfree
  have hisName := (Environment.isName_bytes hbytes).mpr hname
  have ⟨hresult, hmachine⟩ := unsetenv_call config platform site hspan htext
  have ⟨hanswer, hafter⟩ := hkernel.unsetenv name w.toMachine hisName
  refine ⟨hresult.trans (by rw [hanswer]), ?_⟩
  intro other
  rw [congrArg Machine.os hmachine, hafter, hbytes]
  simp only [Text.encode_inj]

end Accepted

section Refused

variable (hspan : w.span = none) (hname : ¬ (text ≠ "" ∧ '=' ∉ text.toList))
  (hfree : '\x00' ∉ text.toList)
include hspan hname hfree

theorem setenv_refused (hnew : '\x00' ∉ new.toList)
    (hnarrow : -2 ^ 31 ≤ overwrite.toInt ∧ overwrite.toInt < 2 ^ 31)
    : let set := (builtIn config).call platform site "setenv"
        [.str text, .str new, .int overwrite] w
      set.1 = .ok (.int (-1)) ∧ set.2.errno = .einval ∧
        ∀ other, told config platform site other set.2 = told config platform site other w := by
  have ⟨name, htext, hbytes⟩ := CString.ofText?_eq_some hfree
  have ⟨value, hvalue, _⟩ := CString.ofText?_eq_some hnew
  have ⟨hresult, hmachine⟩ := setenv_call config platform site hspan htext hvalue hnarrow
  have ⟨hanswer, herrno, hafter⟩ := hkernel.setenv_refused name value overwrite.toInt32 w.toMachine
    (mt (Environment.isName_bytes hbytes).mp hname)
  refine ⟨hresult.trans (by rw [hanswer]), (congrArg Machine.errno hmachine).trans herrno, ?_⟩
  intro other
  apply told_congr config platform site hkernel hspan
  . exact (call_keepsSpan_of_unhooked (Table.find?_setenv config) rfl platform site _ w).trans hspan
  . rw [congrArg Machine.os hmachine, hafter]

theorem unsetenv_refused
    : let unset := (builtIn config).call platform site "unsetenv" [.str text] w
      unset.1 = .ok (.int (-1)) ∧ unset.2.errno = .einval ∧
        ∀ other, told config platform site other unset.2 = told config platform site other w := by
  have ⟨name, htext, hbytes⟩ := CString.ofText?_eq_some hfree
  have ⟨hresult, hmachine⟩ := unsetenv_call config platform site hspan htext
  have ⟨hanswer, herrno, hafter⟩ := hkernel.unsetenv_refused name w.toMachine
    (mt (Environment.isName_bytes hbytes).mp hname)
  refine ⟨hresult.trans (by rw [hanswer]), (congrArg Machine.errno hmachine).trans herrno, ?_⟩
  intro other
  apply told_congr config platform site hkernel hspan
  . exact (call_keepsSpan_of_unhooked (Table.find?_unsetenv config) rfl platform site _ w).trans hspan
  . rw [congrArg Machine.os hmachine, hafter]

end Refused

end Variables

/-- What is stored under a name is got back, as far as the name had no value or is to be overwritten. -/
theorem environment_round_trip {valueOf : κ → List UInt8 → Option (List UInt8)}
    (hkernel : platform.kernel.KeepsVariables valueOf) (hspan : w.span = none) (name value : String)
    (overwrite : Int64)
    : let told := told config platform site
      let call := (builtIn config).call platform site
      let narrow := -2 ^ 31 ≤ overwrite.toInt ∧ overwrite.toInt < 2 ^ 31
      let valid := name ≠ "" ∧ '=' ∉ name.toList
      let stores := overwrite ≠ 0 ∨ told name w = .ok .nil
      let set := call "setenv" [.str name, .str value, .int overwrite] w
      let unset := call "unsetenv" [.str name] set.2
      (∀ other, told other (call "getenv" [.str name] w).2 = told other w) ∧
      ('\x00' ∉ name.toList → '\x00' ∉ value.toList → narrow → valid →
        set.1 = .ok (.int 0) ∧
          ((stores → told name set.2 = .ok (.str value)) ∧
            (¬ stores → told name set.2 = told name w) ∧
            ∀ other, other ≠ name → told other set.2 = told other w) ∧
          unset.1 = .ok (.int 0) ∧ told name unset.2 = .ok .nil ∧
            ∀ other, other ≠ name → told other unset.2 = told other set.2) ∧
      ('\x00' ∉ name.toList → ¬ valid →
        ('\x00' ∉ value.toList → narrow → set.1 = .ok (.int (-1)) ∧ set.2.errno = .einval ∧
          ∀ other, told other set.2 = told other w) ∧
        let unset := call "unsetenv" [.str name] w
        unset.1 = .ok (.int (-1)) ∧ unset.2.errno = .einval ∧
          ∀ other, told other unset.2 = told other w) ∧
      ('\x00' ∈ name.toList →
        GivesUp config platform site "setenv" [.str name, .str value, .int overwrite] w
            (.interiorNul "setenv" 0) w.toMachine ∧
          GivesUp config platform site "unsetenv" [.str name] w (.interiorNul "unsetenv" 0)
            w.toMachine ∧
          GivesUp config platform site "getenv" [.str name] w (.interiorNul "getenv" 0)
            w.toMachine) ∧
      ('\x00' ∉ name.toList → '\x00' ∈ value.toList →
        GivesUp config platform site "setenv" [.str name, .str value, .int overwrite] w
          (.interiorNul "setenv" 1) w.toMachine) := by
  have hset := (call_keepsSpan_of_unhooked (Table.find?_setenv config) rfl platform site
    [.str name, .str value, .int overwrite] w).trans hspan
  have hunset := (call_keepsSpan_of_unhooked (Table.find?_unsetenv config) rfl platform site
    [.str name] _).trans hset
  refine ⟨?read, ?accepted, ?refused, ?name, ?value⟩
  case read => exact getenv_keeps config platform site hkernel hspan
  case accepted =>
    intro hname hvalue hnarrow hvalid
    have ⟨hresult, hafter⟩ :=
      setenv_accepted config platform site hkernel hspan hvalid hname hvalue hnarrow
    have ⟨hresult', hafter'⟩ := unsetenv_accepted config platform site hkernel hset hvalid hname
    exact ⟨hresult, told_of_stored config platform site hkernel hspan hset hname hafter,
      hresult', told_of_erased config platform site hkernel hset hunset hname hafter'⟩
  case refused =>
    intro hname hinvalid
    exact ⟨setenv_refused config platform site hkernel hspan hinvalid hname,
      unsetenv_refused config platform site hkernel hspan hinvalid hname⟩
  case name =>
    intro hzero
    exact ⟨setenv_givesUp_name config platform site hspan hzero,
      unsetenv_givesUp config platform site hspan hzero,
      getenv_givesUp config platform site hspan hzero⟩
  case value =>
    intro hname hzero
    exact setenv_givesUp_value config platform site hspan hname hzero

/-- A variable without a value gets one even if it is not to be overwritten, in a value an equals sign is
a character like any other, and a name with one is refused. -/
theorem environment_round_trip_greek
    : let platform : Platform Posix TrackedDirectory :=
        ⟨Posix.kernel, .tracking Posix.kernel, .undisturbing⟩
      let w : World Posix TrackedDirectory := ⟨⟨.fresh, ⟨5⟩, .initial⟩, none, #[], ⟨Path.root⟩⟩
      let told := told {} platform "here"
      let call := (builtIn {}).call platform "here"
      let set := call "setenv" [.str "λόγος", .str "größe=1", .int 0] w
      let refused := call "setenv" [.str "λόγος=", .str "größe", .int 0] w
      platform.kernel.KeepsVariables Posix.valueOf ∧ told "λόγος" w = .ok .nil ∧
        set.1 = .ok (.int 0) ∧ told "λόγος" set.2 = .ok (.str "größe=1") ∧
        told "PATH" set.2 = .ok (.str "/bin") ∧
        refused.1 = .ok (.int (-1)) ∧ refused.2.errno = .einval := by
  intro platform w told call set refused
  have hkernel : platform.kernel.KeepsVariables Posix.valueOf := Posix.kernel_keepsVariables
  have hunset : told "λόγος" w = .ok .nil := by
    decide +kernel
  have hpath : told "PATH" w = .ok (.str "/bin") := by
    decide +kernel
  have ⟨_, haccepted, _⟩ :=
    environment_round_trip {} platform "here" hkernel (w := w) rfl "λόγος" "größe=1" 0
  have ⟨hresult, hset, _⟩ := haccepted (by decide) (by decide) (by decide) (by decide)
  have ⟨_, _, hrefused, _⟩ :=
    environment_round_trip {} platform "here" hkernel (w := w) rfl "λόγος=" "größe" 0
  have ⟨hresult', herrno, _⟩ := (hrefused (by decide) (by decide)).1 (by decide) (by decide)
  exact ⟨hkernel, hunset, hresult, hset.1 (Or.inr hunset),
    (hset.2.2 "PATH" (by decide)).trans hpath, hresult', herrno⟩

end Registry

end NativeCall
