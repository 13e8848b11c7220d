import ScriptOracle.Service.Router

/-!
# Inquiries that pass at the door

A data value is posted if it is announced as one, is not too long, and can be read. Such an inquiry is
turned away neither at the door nor where its body is read, whatever its path.
-/

namespace ScriptOracle.Service

structure Inquiry.Posts (inquiry : Inquiry) (path : String) (body : Json) : Prop where
  method : inquiry.method = "POST"
  path : inquiry.path = path
  announced : ∃ type media, inquiry.contentType = some type ∧ isReadable type = true ∧
    type.startsWith "application/json" = true ∧ MediaType.read? type = some media ∧
    media.isJson = true
  size : inquiry.body.length ≤ maxBodyBytes
  read : Json.readFirst inquiry.body = .ok body

namespace Inquiry.Posts

variable {inquiry : Inquiry} {path : String} {body : Json}

theorem readBody_eq (posts : inquiry.Posts path body) : readBody inquiry = .ok body := by
  obtain ⟨type, media, given, -, -, known, isJson⟩ := posts.announced
  have short : ¬ maxBodyBytes < inquiry.body.length := Nat.not_lt.2 posts.size
  simp only [readBody, given, Option.bind_some, known, isJson, Bool.not_true, Bool.false_eq_true,
    if_false, short, posts.read]

theorem withBody_eq (posts : inquiry.Posts path body) (state : State)
    (next : Json -> Answer × State) : withBody state inquiry next = next body := by
  rw [withBody, posts.readBody_eq]

theorem respond_eq_route (posts : inquiry.Posts path body) (around : Surroundings)
    (state : State) : respond around state inquiry = route around state inquiry := by
  have welcome : isWelcome inquiry = true := by
    obtain ⟨type, media, given, readable, starts, -⟩ := posts.announced
    simp only [isWelcome, given, readable, starts, Bool.and_self, Bool.or_true]
  rw [respond, if_pos welcome]

theorem respond_evaluate (posts : inquiry.Posts "/v1/evaluate" body) (around : Surroundings)
    (state : State) : respond around state inquiry = evaluate around state body := by
  rw [posts.respond_eq_route, route, posts.path, posts.method]
  exact posts.withBody_eq state _

theorem respond_buildRequest (posts : inquiry.Posts "/v1/build-request" body)
    (around : Surroundings) (state : State) :
    respond around state inquiry = (buildRequest around body, state) := by
  rw [posts.respond_eq_route, route, posts.path, posts.method]
  exact posts.withBody_eq state _

end Inquiry.Posts

end ScriptOracle.Service
