import ExtensionAdmin.Service.Endpoint

/-! The requests of a dialogue. A network that writes down what is sent over it answers as before,
so a dialogue goes on in the same way over both. What is written down are the requests of the
effects that the record holds, in the same order: a change that was begun sends the request that was
built for it, if there is one, and a listing the request for the list. -/

namespace ExtensionAdmin

/-- A network that writes down the requests that are sent over it, oldest first. -/
def Http.Network.recording {σ : Type} (net : Http.Network σ) :
    Http.Network (List Http.Request × σ) where
  send r w :=
    let (a, s) := net.send r w.2
    (a, (w.1 ++ [r], s))
  await n w :=
    let (a, s) := net.await n w.2
    (a, (w.1, s))

namespace Service.Endpoint

open Batch (Dialogue Effect Modal Phase Played Transition)
open Http (Client Network Request)

variable {α β σ τ : Type} (ep : Endpoint α) (c : Client) (net : Network σ)

def requests : Effect α → List Request
  | .sent e t => (ep.changeRequest c e t).toOption.toList
  | .listed _ => (ep.listRequest c).toOption.toList
  | _ => []

theorem recorded_sendOne (r : Request) (log : List Request) (w : σ) :
    sendOne net.recording r (log, w) =
      ((sendOne net r w).1, (log ++ [r], (sendOne net r w).2)) := by
  rcases sent : net.send r w with ⟨_ | a, s⟩ <;> simp [sendOne, Network.recording, sent]

theorem recorded_send (e : α) (t : Transition) (log : List Request) (w : σ) :
    ep.send c net.recording e t (log, w) = ((ep.send c net e t w).1,
      (log ++ (ep.changeRequest c e t).toOption.toList, (ep.send c net e t w).2)) := by
  cases built : ep.changeRequest c e t <;>
    simp [send, built, Network.recording, Except.toOption]

theorem recorded_list (log : List Request) (w : σ) :
    ep.list c net.recording (log, w) = ((ep.list c net w).1,
      (log ++ (ep.listRequest c).toOption.toList, (ep.list c net w).2)) := by
  cases built : ep.listRequest c <;>
    simp [list, built, recorded_sendOne, Except.toOption]

theorem recorded_await (underWay : List α) (log : List Request) (w : σ) :
    await net.recording underWay (log, w) =
      ((await net underWay w).1, (log, (await net underWay w).2)) := by
  simp [await, Network.recording]

variable (ask : Modal → τ → Option Bool × τ) (close : τ → τ)

/-- Over a network that writes down what is sent, a dialogue goes on as before, and what is written
down are the requests of its effects. -/
theorem recorded_play (d : Dialogue α β) (phase : Phase) (t : τ) (log : List Request) (w : σ) :
    d.play (ep.environment c net.recording ask close) phase (t, (log, w)) =
      let p := d.play (ep.environment c net ask close) phase (t, w)
      ⟨p.effects, p.phase, p.result,
        (p.world.1, (log ++ p.effects.flatMap (ep.requests c), p.world.2))⟩ := by
  induction d generalizing phase t log w with
  | done x => simp [Dialogue.play]
  | enter p next ih => simp [Dialogue.play, Played.after, ih, requests]
  | close next ih =>
    simp only [Dialogue.play, environment] at ih ⊢
    simp [Played.after, requests, ih]
  | ask m next ih =>
    simp only [Dialogue.play, environment] at ih ⊢
    rcases reply : ask m t with ⟨_ | yes, after⟩ <;> simp [Played.after, requests, ih]
  | send e u next ih =>
    simp only [Dialogue.play, environment, recorded_send] at ih ⊢
    rcases reply : ep.send c net e u w with ⟨_ | v, after⟩ <;> simp [Played.after, requests, ih]
  | await underWay u next ih =>
    simp only [Dialogue.play, environment, recorded_await] at ih ⊢
    rcases reply : await net underWay w with ⟨_ | ⟨i, v⟩, after⟩ <;>
      simp [Played.after, requests, ih]
  | list next ih =>
    simp only [Dialogue.play, environment, recorded_list] at ih ⊢
    rcases reply : ep.list c net w with ⟨_ | r, after⟩ <;> simp [Played.after, requests, ih]

end Service.Endpoint

end ExtensionAdmin
