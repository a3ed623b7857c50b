import NativeCall.Host.Recording
import NativeCall.Posix.Kernel
import NativeCall.Proofs.Events

/-!
This module contains that the regions which calls hand to the system lie inside the handles of the
caller.
-/

namespace NativeCall

variable {κ η : Type}

theorem Called.handovers_sound {platform : Platform κ η} {config : BindingConfig}
    {site name : String} {args : List Variant} {w : World (Traced κ) η}
    {run : Except CallError Variant × World (Traced κ) η}
    (h : Called platform config site name args w run) (hstart : w.os.events = []) {reply : Reply}
    {p : Primitive reply} {memory : Memory} {answer : reply.Value} {register : Errno}
    (hmem : .request p memory answer register ∈ run.2.os.events)
    : ∀ handover ∈ p.handovers memory, handover.Sound args := by
  have ⟨asked, answered, notices, hevents, hasking, htelling, _, _, _, hanswered⟩ := h.events
  rw [hevents, hstart, List.nil_append, List.mem_append, List.mem_append] at hmem
  cases hmem with
  | inl hasked => cases (hasking _ hasked).2
  | inr hrest =>
    cases hrest with
    | inl hmem => exact hanswered.handovers_sound hmem
    | inr htold => cases htelling _ htold

/-- A region that a request hands over is the caller's, and no more of it than is known to be there. -/
theorem Registry.request_handovers_sound (config : BindingConfig) (platform : Platform κ η)
    (site name : String) (args : List Variant) (w : World κ η) {reply : Reply}
    {p : Primitive reply} {memory : Memory} {answer : reply.Value} {register : Errno}
    (h : .request p memory answer register ∈ events config platform site name args w)
    : ∀ handover ∈ p.handovers memory, handover.Sound args := by
  have hcalled := tracedCall_called config platform site name args w
  exact hcalled.handovers_sound rfl h

theorem Registry.gethostname_handovers_sound
    : .request (.gethostname 16 13) .fresh 0 ⟨0⟩ ∈
        events {} ⟨Posix.kernel, .recording, .undisturbing⟩ "here" "gethostname"
          [.pointer ⟨16, some 13⟩, .int 13] ⟨⟨.fresh, ⟨0⟩, .initial⟩, none, #[], ⟨"/", none, []⟩⟩ ∧
      ∀ handover ∈ (Primitive.gethostname 16 13).handovers .fresh,
        handover.Sound [.pointer ⟨16, some 13⟩, .int 13] := by
  have hmem : .request (.gethostname 16 13) .fresh 0 ⟨0⟩ ∈
      events {} ⟨Posix.kernel, .recording, .undisturbing⟩ "here" "gethostname"
        [.pointer ⟨16, some 13⟩, .int 13]
        ⟨⟨.fresh, ⟨0⟩, .initial⟩, none, #[], ⟨"/", none, []⟩⟩ := by
    exact List.mem_singleton.mpr rfl
  exact ⟨hmem, request_handovers_sound _ _ _ _ _ _ hmem⟩

end NativeCall
