/-!
# HTTP verbs and status codes

`Verb` lists the verbs in the order in which a path lists its operations. `reasonPhrase` is the
standard wording of a status code.
-/

namespace ApiContract

/-- An HTTP verb. -/
inductive Verb where
  | get
  | put
  | post
  | delete
  | options
  | head
  | patch
  | trace
deriving DecidableEq, Repr, Inhabited

namespace Verb

/-- All verbs in order. -/
def all : List Verb := [.get, .put, .post, .delete, .options, .head, .patch, .trace]

/-- The place of a verb in the order. -/
def rank : Verb → Nat
  | .get => 0
  | .put => 1
  | .post => 2
  | .delete => 3
  | .options => 4
  | .head => 5
  | .patch => 6
  | .trace => 7

instance : LT Verb := ⟨fun a b => a.rank < b.rank⟩

instance : DecidableRel (α := Verb) (· < ·) := fun a b =>
  inferInstanceAs (Decidable (a.rank < b.rank))

/-- The verb in capitals. -/
def name : Verb → String
  | .get => "GET"
  | .put => "PUT"
  | .post => "POST"
  | .delete => "DELETE"
  | .options => "OPTIONS"
  | .head => "HEAD"
  | .patch => "PATCH"
  | .trace => "TRACE"

/-- The verb in small letters, which is also the key of its operation on a path. -/
def key : Verb → String
  | .get => "get"
  | .put => "put"
  | .post => "post"
  | .delete => "delete"
  | .options => "options"
  | .head => "head"
  | .patch => "patch"
  | .trace => "trace"

/-- The names of a verb. -/
def names (v : Verb) : List String := [v.name, v.key]

theorem mem_all (v : Verb) : v ∈ all := by cases v <;> decide

theorem rank_injective {v w : Verb} (h : v.rank = w.rank) : v = w := by
  cases v <;> cases w <;> first | rfl | exact absurd h (by decide)

end Verb

/-- The standard reason phrase of a status code. -/
def reasonPhrase (code : UInt16) : String :=
  match code.toNat with
  | 200 => "OK"
  | 201 => "Created"
  | 202 => "Accepted"
  | 204 => "No Content"
  | 301 => "Moved Permanently"
  | 302 => "Found"
  | 304 => "Not Modified"
  | 400 => "Bad Request"
  | 401 => "Unauthorized"
  | 403 => "Forbidden"
  | 404 => "Not Found"
  | 405 => "Method Not Allowed"
  | 409 => "Conflict"
  | 415 => "Unsupported Media Type"
  | 422 => "Unprocessable Entity"
  | 429 => "Too Many Requests"
  | 500 => "Internal Server Error"
  | 502 => "Bad Gateway"
  | 503 => "Service Unavailable"
  | _ => "Response"

end ApiContract
