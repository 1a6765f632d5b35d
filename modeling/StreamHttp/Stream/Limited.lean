import StreamHttp.Stream.Session

/-!
A reader that stops after a number of bytes, even if what it reads from holds more.
-/

namespace StreamHttp

structure Limited (σ : Type) where
  inner : σ
  size : Nat
  remaining : Nat

namespace Limited

def ofSize {σ : Type} (inner : σ) (size : Nat) : Limited σ := ⟨inner, size, size⟩

def delivered {σ : Type} (limited : Limited σ) : Nat := limited.size - limited.remaining

def read {σ : Type} (readInner : Nat → σ → Except String Bytes × σ) (count : Nat)
    (limited : Limited σ) : Except String Bytes × Limited σ :=
  if limited.remaining == 0 then (.ok [], limited)
  else
    match readInner (min count limited.remaining) limited.inner with
    | (.ok bytes, inner) =>
        (.ok bytes, { limited with inner, remaining := limited.remaining - bytes.length })
    | (.error message, inner) => (.error message, { limited with inner })

def delivery (limited : Limited Session) : Delivery :=
  limited.inner.delivery.within limited.remaining

end Limited

end StreamHttp
