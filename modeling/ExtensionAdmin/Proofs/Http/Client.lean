import ExtensionAdmin.Http.Client

/-! Requests that are built. A request is built exactly when its path leads to a URL of the web that
can be a target and the token and the version of the interface can be written in its headers; it
says what it was asked to say. -/

namespace ExtensionAdmin.Http

theorem isHeaderValue_append (s t : String) :
    isHeaderValue (s ++ t) = (isHeaderValue s && isHeaderValue t) := by
  rw [isHeaderValue, String.toList_append, List.all_append]
  rfl

namespace Client

def Admits (c : Client) (format : Format) : Prop :=
  isHeaderValue c.token = true ∧ isHeaderValue (c.accept format) = true

theorem url_eq_ok_iff {c : Client} {path : String} {url : Url} :
    c.url path = .ok url ↔ c.base.join path = .ok (.web url) := by
  rw [Client.url]
  split <;> simp_all

theorem request_eq_ok_iff {c : Client} {method : Method} {path body : String} {format : Format}
    {contentType : Option String} {r : Request} :
    c.request method path format contentType body = .ok r ↔ c.Admits format ∧
      ∃ url, c.url path = .ok url ∧ url.isTarget = true ∧
        r = ⟨method, url, c.token, c.accept format, contentType, body⟩ := by
  unfold request Admits
  cases c.url path with
  | error f => simp
  | ok url =>
    by_cases headers : isHeaderValue c.token = true ∧ isHeaderValue (c.accept format) = true
    · by_cases target : url.isTarget = true
      · simpa [headers, target] using eq_comm
      · simp [headers, target]
    · simp [headers]

theorem request_ok {c : Client} {method : Method} {path body : String} {format : Format}
    {contentType : Option String} {r : Request}
    (built : c.request method path format contentType body = .ok r) :
    r.method = method ∧ r.body = body := by
  obtain ⟨-, url, -, -, rfl⟩ := request_eq_ok_iff.mp built
  exact ⟨rfl, rfl⟩

theorem request_eq_invalidHeader {c : Client} {method : Method} {path body : String}
    {format : Format} {contentType : Option String} {url : Url} (found : c.url path = .ok url)
    (refused : ¬ c.Admits format) :
    c.request method path format contentType body = .error (.transport .invalidHeader) := by
  have headers : (isHeaderValue c.token && isHeaderValue (c.accept format)) = false := by
    simpa [Admits] using refused
  rw [request, found]
  simp only [headers, Bool.false_eq_true, if_false]

theorem request_eq_invalidTarget {c : Client} {method : Method} {path body : String}
    {format : Format} {contentType : Option String} {url : Url} (admitted : c.Admits format)
    (found : c.url path = .ok url) (untargeted : url.isTarget = false) :
    c.request method path format contentType body = .error (.transport .invalidTarget) := by
  have headers : (isHeaderValue c.token && isHeaderValue (c.accept format)) = true := by
    simpa [Admits] using admitted
  rw [request, found]
  simp only [headers, untargeted, Bool.false_eq_true, if_true, if_false]

/-- The `Accept` header is a text of its own in front of the version. -/
theorem accept_eq (c : Client) (format : Format) : ∃ front, isHeaderValue front = true ∧
    "version=".toList <:+ front.toList ∧ c.accept format = front ++ c.apiVersion := by
  cases format with
  | xml => exact ⟨"application/*+xml;version=", by decide, by decide, rfl⟩
  | json => exact ⟨"application/json;version=", by decide, by decide, rfl⟩

theorem accept_ends (c : Client) (format : Format) :
    ("version=" ++ c.apiVersion).toList <:+ (c.accept format).toList := by
  obtain ⟨front, -, ⟨before, ends⟩, whole⟩ := c.accept_eq format
  refine ⟨before, ?_⟩
  rw [whole, String.toList_append, String.toList_append, ← ends, List.append_assoc]

end Client

end ExtensionAdmin.Http
