import NativeCall.Text.Reader

/-!
This module contains what is known of anything that a reader takes off the front of a text.
-/

namespace NativeCall.Text.Reader

variable {α β : Type} {x y : Reader α} {p : α → Prop} {q : β → Prop}

/-- Whatever the reader takes off the front of a text has the property. -/
structure Gives (x : Reader α) (p : α → Prop) : Prop where
  of_eq_some : ∀ c a c', x c = some (a, c') → p a

theorem gives_pure {a : α} (h : p a) : Gives (pure a) p := by
  constructor
  rintro c _ _ ⟨⟩
  exact h

theorem gives_failure : Gives (failure : Reader α) p := by
  constructor
  nofun

theorem gives_trivial (x : Reader α) : x.Gives fun _ => True := by
  exact ⟨fun _ _ _ _ => trivial⟩

theorem Gives.bind {f : α → Reader β} (hx : x.Gives p) (hf : ∀ a, p a → (f a).Gives q)
    : Gives (x >>= f) q := by
  constructor
  intro c b c' h
  have ⟨⟨a, mid⟩, ha, hb⟩ := Option.bind_eq_some_iff.mp h
  exact (hf a (hx.of_eq_some c a mid ha)).of_eq_some mid b c' hb

/-- Nothing need be known of what is taken first. -/
theorem gives_bind {f : α → Reader β} (hf : ∀ a, (f a).Gives q) : Gives (x >>= f) q := by
  exact (gives_trivial x).bind fun a _ => hf a

theorem Gives.map {f : α → β} (hx : x.Gives p) (hf : ∀ a, p a → q (f a)) : Gives (f <$> x) q := by
  constructor
  intro c b c' h
  have ⟨⟨a, mid⟩, ha, hb⟩ := Option.bind_eq_some_iff.mp h
  cases hb
  exact hf a (hx.of_eq_some c a c' ha)

theorem Gives.orElse (hx : x.Gives p) (hy : y.Gives p) : Gives (x <|> y) p := by
  constructor
  intro c a c' h
  have hor : (x <|> y) c = (x c <|> y c) := by rfl
  rw [hor] at h
  cases hrun : x c with
  | some found =>
    rw [hrun] at h
    cases h
    exact hx.of_eq_some c a c' hrun
  | none =>
    rw [hrun] at h
    exact hy.of_eq_some c a c' h

theorem Gives.optional (hx : x.Gives p)
    : Gives (optional x) fun found => ∀ a, found = some a → p a := by
  apply Gives.orElse
  . apply hx.map
    rintro a ha _ ⟨⟩
    exact ha
  . exact gives_pure nofun

theorem Gives.many (hx : x.Gives p) : Gives (many x) fun found => ∀ a ∈ found, p a := by
  have hgo (n : Nat) : Gives (many.go x n) fun found => ∀ a ∈ found, p a := by
    induction n with
    | zero => exact gives_pure nofun
    | succ n ih =>
      unfold many.go
      apply hx.optional.bind
      intro found hfound
      split
      . next a =>
        apply ih.bind
        intro others hothers
        exact gives_pure (List.forall_mem_cons.mpr ⟨hfound a rfl, hothers⟩)
      . exact gives_pure nofun
  unfold Reader.many
  exact gives_bind fun c => hgo _

theorem Gives.separated (separator : Reader β) (hx : x.Gives p)
    : Gives (separated separator x) fun found => ∀ a ∈ found, p a := by
  have hnext : Gives (do let _ ← separator; x) p := gives_bind fun _ => hx
  unfold Reader.separated
  apply hx.bind
  intro first hfirst
  apply hnext.many.bind
  intro others hothers
  exact gives_pure (List.forall_mem_cons.mpr ⟨hfirst, hothers⟩)

theorem Gives.spanned (hx : x.Gives p) : Gives (spanned x) fun found => p found.1 := by
  unfold Reader.spanned
  apply gives_bind
  intro start
  apply hx.bind
  intro a ha
  exact gives_bind fun stop => gives_pure ha

theorem Gives.run (hx : x.Gives p) {text : String} {a : α} (h : x.run text = some a) : p a := by
  unfold Reader.run at h
  have ⟨⟨a', c⟩, hrun, ha⟩ := Option.map_eq_some_iff.mp h
  cases ha
  have hall : Gives (do let a ← x; atEnd; return a : Reader α) p := by
    exact hx.bind fun a ha => gives_bind fun _ => gives_pure ha
  exact hall.of_eq_some _ _ _ hrun

end NativeCall.Text.Reader
