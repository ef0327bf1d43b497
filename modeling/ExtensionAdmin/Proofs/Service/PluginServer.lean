import ExtensionAdmin.Proofs.Http.Client
import ExtensionAdmin.Proofs.Batch.Success
import ExtensionAdmin.Proofs.Service.PluginStore
import ExtensionAdmin.Proofs.Url.Below

/-! A server of plugins, as a batch finds it. It is told by what it holds: the texts that it stores,
with the updates that are under way to it. From its answers a batch gets the plugins that the texts
describe, and every update of one of them is carried out. A shelf is such a server, whatever plugins
are put on it. -/

namespace ExtensionAdmin.Service.UiPlugins

open Batch (Modal Obliges Transition)
open Http (Client Network Request)
open Json (Value)

variable {σ τ : Type}

/-- A server of plugins. It is known by what it `holds` in a state: how many requests are under way
to it, and the texts that it stores once these are carried out. It lists the stored texts in order,
and an update of a stored plugin puts the body in its place and is answered with success. -/
structure Serves (c : Client) (net : Network σ) (u : Update)
    (holds : σ → Nat → List String → Prop) : Prop where
  lists : ∀ {w texts r}, holds w 0 texts → endpoint.listRequest c = .ok r →
    ∃ response after, Endpoint.sendOne net r w = (some (.ok response), after) ∧
      Http.isSuccess response.status = true ∧
      Json.readVerbatim? response.body.toList = (texts.mapM stored?).map .array ∧
      holds after 0 texts
  updates : ∀ {w n texts text p r}, holds w n texts → text ∈ texts → plugin? text = some p →
    u.request c p = .ok r → ∃ reply after, net.send r w = (reply, after) ∧
      ((reply = none ∧ holds after (n + 1) (replaced p.id r.body texts)) ∨
        ∃ response, reply = some (.ok response) ∧ Http.isSuccess response.status = true ∧
          holds after n (replaced p.id r.body texts))
  answers : ∀ {w n texts}, 0 < n → holds w n texts →
    ∃ i response after, net.await n w = (some (i, .ok response), after) ∧
      Http.isSuccess response.status = true ∧ holds after (n - 1) texts

theorem listRequest_eq (c : Client) :
    endpoint.listRequest c = c.request .get collectionPath .json none "" := by
  simp only [endpoint, Client.bare]

/-- Whether the path of a plugin leads to no URL that is too long for a request. -/
def Addressable (c : Client) (p : UiPlugin) : Prop :=
  ∀ url, c.url (pluginPath p) = .ok url → url.fits = true

/-- Whoever can be asked for the list can be sent every update whose URL is not too long. -/
theorem request_built_iff {c : Client} {r : Request} (listed : endpoint.listRequest c = .ok r)
    (u : Update) (p : UiPlugin) : (∃ r, u.request c p = .ok r) ↔ Addressable c p := by
  rw [listRequest_eq] at listed
  obtain ⟨admitted, web, led, target, -⟩ := Client.request_eq_ok_iff.mp listed
  have joined : c.base.join collectionPath = .ok (.web web) := Client.url_eq_ok_iff.mp led
  have rooted : collectionPath.toList = '/' :: ("cloudapi/extensions/u".toList ++ ['i']) := by
    decide
  -- The path of the list can be joined to the base, so a path below it can be joined as well, and
  -- it leads to the same server.
  obtain ⟨further, below, server⟩ :=
    Url.join_further c.base rooted (by decide) (by decide) joined p.id
  have found : c.url (pluginPath p) = .ok further := Client.url_eq_ok_iff.mpr below
  rw [Url.isTarget, Bool.and_eq_true] at target
  have targeted : further.isTarget = true ↔ Addressable c p := by
    simp [Url.isTarget, server, target.2, Addressable, found]
  rw [← targeted]
  constructor
  · rintro ⟨put, built⟩
    rw [u.request_eq] at built
    obtain ⟨-, url, led, target, -⟩ := Client.request_eq_ok_iff.mp built
    obtain rfl := Except.ok.inj (found.symm.trans led)
    exact target
  · intro target
    rw [u.request_eq]
    exact ⟨_, Client.request_eq_ok_iff.mpr ⟨admitted, further, found, target, rfl⟩⟩

variable {c : Client} {net : Network σ} {u : Update} {holds : σ → Nat → List String → Prop}
  {ask : Modal → τ → Option Bool × τ} {close : τ → τ} {texts : List String} {ps : List UiPlugin}

def listing : Option (List UiPlugin) → Except Error (List UiPlugin)
  | some ps => .ok ps
  | none => .error (.transport .malformedBody)

theorem Serves.listed (server : Serves c net u holds) {w : σ} (held : holds w 0 texts) {r : Request}
    (asks : endpoint.listRequest c = .ok r) :
    ∃ after, endpoint.list c net w = (some (listing (texts.mapM plugin?)), after) ∧
      holds after 0 texts := by
  obtain ⟨response, after, answered, success, body, held⟩ := server.lists held asks
  have read : endpoint.listed (.ok response) = listing (texts.mapM plugin?) := by
    simp only [Endpoint.listed, Http.check, success, if_true, endpoint, Except.bind, readList,
      ofListing?_eq body]
    cases texts.mapM plugin? <;> rfl
  refine ⟨after, ?_, held⟩
  simp only [Endpoint.list, asks, answered, Option.map_some, read]

theorem Serves.fetched (server : Serves c net u holds) {w : σ} (held : holds w 0 texts)
    (asks : ∃ r, endpoint.listRequest c = .ok r) (described : texts.mapM plugin? = some ps) :
    (endpoint.list c net w).1 = some (.ok ps) := by
  obtain ⟨r, asks⟩ := asks
  obtain ⟨after, same, -⟩ := server.listed held asks
  rw [same, described, listing]

/-- A list that was fetched holds the plugins that the stored texts describe. -/
theorem Serves.described (server : Serves c net u holds) {w : σ} (held : holds w 0 texts)
    (fetched : (endpoint.list c net w).1 = some (.ok ps)) :
    (∃ r, endpoint.listRequest c = .ok r) ∧ texts.mapM plugin? = some ps := by
  cases asks : endpoint.listRequest c with
  | error e => simp [Endpoint.list, asks] at fetched
  | ok r =>
    refine ⟨⟨r, rfl⟩, ?_⟩
    obtain ⟨after, same, -⟩ := server.listed held asks
    rw [same] at fetched
    cases found : texts.mapM plugin? with
    | none => simp [found, listing] at fetched
    | some qs => simpa [found, listing] using fetched

theorem changed_success {response : Http.Response}
    (success : Http.isSuccess response.status = true) :
    Endpoint.changed (.ok response) = .ok () := by
  simp [Endpoint.changed, Http.check, success, Except.map]

/-- The server carries out the updates of some of its plugins. -/
theorem Serves.obliges (server : Serves c net u holds) {r : Request}
    (asks : endpoint.listRequest c = .ok r) (described : texts.mapM plugin? = some ps)
    (distinct : (ps.map UiPlugin.id).Nodup) {es : List UiPlugin} (within : es ⊆ ps)
    (once : es.Nodup) (addressable : ∀ e ∈ es, Addressable c e) :
    Obliges (endpoint.environment c net ask close) u.transition es
      fun w n sent => holds w.2 n (texts.map (u.revised sent)) := by
  constructor
  case sends =>
    rintro w n sent e rest rfl held
    have listed : e ∈ ps := within (by simp)
    -- Each plugin is sent once, so the text that is replaced now has not been revised before.
    have unsent : e ∉ sent := by
      intro member
      exact (List.nodup_append.mp once).2.2 e member e List.mem_cons_self rfl
    obtain ⟨text, member, read⟩ :=
      Fallible.paired_of_mem (Fallible.mapM_eq_some.mp described) listed
    obtain ⟨put, built⟩ := (request_built_iff asks u e).mpr (addressable e (by simp))
    have body : put.body = (u.apply e).toValue.text := by
      rw [u.request_eq] at built
      exact (Client.request_ok built).2
    have stored : text ∈ texts.map (u.revised sent) := by
      refine List.mem_map.mpr ⟨text, member, ?_⟩
      simp [Update.revised, read, unsent]
    obtain ⟨reply, after, answered, goes⟩ := server.updates held stored read built
    rw [body, Update.replaced_revised described distinct listed unsent] at goes
    refine ⟨reply.map Endpoint.changed, (w.1, after), ?_, ?_⟩
    · simp only [Endpoint.environment, Endpoint.send]
      rw [show endpoint.changeRequest c e u.transition = .ok put from
        (u.changeRequest_eq c e).trans built]
      simp only [answered]
    · rcases goes with ⟨rfl, held⟩ | ⟨response, rfl, success, held⟩
      · exact Or.inl ⟨rfl, held⟩
      · exact Or.inr ⟨by rw [Option.map_some, changed_success success], held⟩
  case answers =>
    intro w underWay some held
    obtain ⟨i, response, after, answered, success, held⟩ :=
      server.answers (List.length_pos_iff.mpr some) held
    refine ⟨i, (w.1, after), ?_, held⟩
    simp only [Endpoint.environment, Endpoint.await, answered, Option.map_some,
      changed_success success]

structure Shelf where
  texts : List String
  underWay : Nat
deriving DecidableEq, Repr

namespace Shelf

def body (texts : List String) : String :=
  String.ofList ('[' :: [','].intercalate (texts.map String.toList) ++ [']'])

def network : Network Shelf where
  send r w :=
    match r.method with
    | .get => (some (.ok ⟨200, body w.texts⟩), w)
    | _ =>
      let id := ((plugin? r.body).map UiPlugin.id).getD ""
      (none, ⟨replaced id r.body w.texts, w.underWay + 1⟩)
  await
    | n + 1, w => (some (Fin.last n, .ok ⟨200, ""⟩), { w with underWay := n })
    | 0, w => (none, w)

theorem body_read (vs : List Value) :
    Json.readVerbatim? (body (vs.map Value.text)).toList =
      ((vs.map Value.text).mapM stored?).map .array := by
  have printed : (body (vs.map Value.text)).toList = (Value.array vs).render := by
    rw [body, String.toList_ofList, Value.render, Value.renderItems_eq_intercalate, List.map_map]
    simp [Function.comp_def, Value.text]
  have each : (vs.map Value.text).mapM stored? = vs.mapM (Value.reread storedDepth) := by
    rw [List.mapM_map]
    congr 1
    funext v
    rw [Function.comp_apply, stored?, Value.text, String.toList_ofList, Json.readWithin?_render]
  rw [printed, Json.readVerbatim?_render, each, ← Value.rereadItems_eq_mapM]
  rfl

def Holds (lists : List (List UiPlugin)) (w : Shelf) (n : Nat) (texts : List String) : Prop :=
  w = ⟨texts, n⟩ ∧ ∃ ps ∈ lists, texts = ps.map fun p => p.toValue.text

/-- A shelf serves the lists of plugins among which it stays under every update. -/
theorem serves (c : Client) (u : Update) {lists : List (List UiPlugin)}
    (stays : ∀ ps ∈ lists, ∀ p ∈ ps, ∀ q, plugin? p.toValue.text = some q →
      (plugin? (u.apply q).toValue.text).map UiPlugin.id = some q.id ∧
        ∃ qs ∈ lists, replaced q.id (u.apply q).toValue.text (ps.map fun p => p.toValue.text) =
          qs.map fun p => p.toValue.text) :
    Serves c network u (Holds lists) := by
  constructor
  case lists =>
    rintro _ _ r ⟨rfl, ps, member, rfl⟩ asks
    rw [listRequest_eq] at asks
    have read := body_read (ps.map UiPlugin.toValue)
    rw [List.map_map] at read
    refine ⟨⟨200, _⟩, _, ?_, rfl, read, rfl, ps, member, rfl⟩
    simp only [Endpoint.sendOne, network, (Client.request_ok asks).1]
    rfl
  case updates =>
    rintro _ n _ _ q r ⟨rfl, ps, member, rfl⟩ among read built
    obtain ⟨p, listed, rfl⟩ := List.mem_map.mp among
    rw [u.request_eq] at built
    obtain ⟨method, same⟩ := Client.request_ok built
    obtain ⟨id, remains⟩ := stays ps member p listed q read
    refine ⟨none, ⟨_, n + 1⟩, ?_, Or.inl ⟨rfl, rfl, same ▸ remains⟩⟩
    simp only [network, method, same, id, Option.getD_some]
  case answers =>
    rintro _ n texts some ⟨rfl, held⟩
    obtain ⟨n, rfl⟩ := Nat.exists_eq_add_one.mpr some
    exact ⟨Fin.last n, ⟨200, ""⟩, ⟨texts, n⟩, rfl, rfl, rfl, held⟩

def start (ps : List UiPlugin) : Shelf := ⟨ps.map fun p => p.toValue.text, 0⟩

theorem holds_start {lists : List (List UiPlugin)} {ps : List UiPlugin} (member : ps ∈ lists) :
    Holds lists (start ps) 0 (ps.map fun p => p.toValue.text) :=
  ⟨rfl, ps, member, rfl⟩

end Shelf

end ExtensionAdmin.Service.UiPlugins
