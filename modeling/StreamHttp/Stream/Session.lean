import StreamHttp.Stream.Source

/-!
The input of a session: a source with room for bytes that were read too far. They come first in the
next reads, ahead of what the source still holds.
-/

namespace StreamHttp

structure Session where
  pending : Bytes := []
  source : Source := {}

namespace Session

def ofSource (source : Source) : Session := { source }

def content (session : Session) : Bytes := session.pending ++ session.source.content

def delivery (session : Session) : Delivery := ⟨session.content, session.source.failure⟩

def unread (session : Session) (bytes : Bytes) : Session :=
  { session with pending := bytes ++ session.pending }

theorem delivery_unread (session : Session) (bytes : Bytes) :
    (session.unread bytes).delivery = session.delivery.behind bytes := by
  simp [unread, delivery, content, Delivery.behind]

def read (count : Nat) (session : Session) : Except String Bytes × Session :=
  match session.pending with
  | [] =>
      let (result, source) := session.source.read count
      (result, { session with source })
  | byte :: rest =>
      (.ok ((byte :: rest).take count), { session with pending := (byte :: rest).drop count })

theorem gives_read (count : Nat) (session : Session) :
    session.delivery.Gives count (session.read count).1 (session.read count).2.delivery := by
  rcases session with ⟨pending, source⟩
  cases pending with
  | nil => exact source.gives_read count
  | cons byte rest => exact Delivery.gives_front count (List.cons_ne_nil _ _) source.delivery

theorem length_content_read {count : Nat} {session after : Session} {byte : Byte} {rest : Bytes}
    (reading : session.read count = (.ok (byte :: rest), after)) :
    after.content.length < session.content.length := by
  have given := session.gives_read count
  rw [reading] at given
  have whole : session.content = byte :: rest ++ after.content :=
    congrArg Delivery.bytes given.content.1
  rw [whole]
  simp only [List.length_append, List.length_cons]
  omega

end Session

end StreamHttp
