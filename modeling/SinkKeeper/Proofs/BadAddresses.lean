import SinkKeeper.Proofs.Guard
import SinkKeeper.Proofs.Reports

/-!
# Bad addresses

A connection string that is not read is rejected, and the class of the rejection tells the first part of it that is
not as it should be. A sink with such a string reports the rejection without making a call, and a request about such
a sink is answered with 400. The exception is a port of more digits than a whole number may have: that is no
rejection, and it leaves as it is.
-/

namespace SinkKeeper

open SinkKeeper.Text

/-! ## Classes of rejections -/

namespace Address

/-- A connection string with a host and what should be a port. -/
def Names (scheme : String) (url host port : List Char) : Prop :=
  ∃ authority path, Located scheme url authority path ∧ Split authority host port

/-- The port has more digits than are read. -/
def Overlong (scheme : String) (url : List Char) : Prop :=
  ∃ host port, Names scheme url host port ∧ IsDigits port ∧ 4300 < port.length

variable {scheme : String} {allowed : Option (List Char → Bool)} {url : String} {what : Rejection} {e : Failure}

theorem not_lt_of_not_overlong {url authority host port : List Char} {path : Option (List Char)}
    (hlong : ¬Overlong scheme url) (hl : Located scheme url authority path) (hs : Split authority host port)
    (hd : IsDigits port) : ¬4300 < port.length := by
  intro hlength
  exact hlong ⟨host, port, ⟨authority, path, hl, hs⟩, hd, hlength⟩

theorem parse_of_overlong {authority host port : List Char} {path : Option (List Char)}
    (hl : Located scheme url.toList authority path) (hs : Split authority host port) (hd : IsDigits port)
    (hlength : 4300 < port.length) :
    parse scheme allowed url = .error (.shape (.numeralTooLong port.length)) := by
  rw [parse_of_split hl hs, readPort_of_digits hd, if_pos hlength]
  rfl

theorem Overlong.parse (h : Overlong scheme url.toList) :
    ∃ digits, 4300 < digits ∧ parse scheme allowed url = .error (.shape (.numeralTooLong digits)) := by
  obtain ⟨host, port, ⟨authority, path, hl, hs⟩, hd, hlength⟩ := h
  exact ⟨port.length, hlength, parse_of_overlong hl hs hd hlength⟩

theorem rejected_of_error (hlong : ¬Overlong scheme url.toList) (h : parse scheme allowed url = .error e) :
    ∃ what text, e = .sink (.rejected what text) := by
  have hr := parse_reading scheme allowed url
  rw [h] at hr
  cases hr with
  | overlong hl hsplit hd hlength => exact absurd hlength (not_lt_of_not_overlong hlong hl hsplit hd)
  | _ => exact ⟨_, _, rfl⟩

end Address

/-! ## Sinks with a bad address -/

namespace Sink

/-- The connection string of a sink is not read, and that is not for the length of its port. -/
structure Misaddressed (s : Sink) : Prop where
  unread : ∀ a, s.dialect.parseAddress (strip s.url) ≠ .ok a
  short : ¬Address.Overlong s.dialect.scheme (strip s.url).toList

theorem Misaddressed.address {s : Sink} (h : s.Misaddressed) : ∃ x, s.address = .error (.sink x) ∧ x.Invalid := by
  unfold Sink.address
  split
  · exact ⟨_, rfl, rfl⟩
  · cases hparse : s.dialect.parseAddress (strip s.url) with
    | ok a => exact absurd hparse (h.unread a)
    | error e =>
        obtain ⟨what, text, rfl⟩ := Address.rejected_of_error h.short hparse
        exact ⟨_, rfl, rfl⟩

variable {σ : Type} [Server σ]

end Sink

/-! ## Requests about a sink with a bad address -/

namespace Web

/-- A request for an operation on a sink that is served: it leads to a sink that is known, shows the token, and
describes the operation. -/
structure Admitted (app : App) (request : Request) where
  engine : String
  task : SinkTask
  body : Body
  form : Json.Fields
  dialect : Dialect
  operation : Operation
  routed : route request = .ok (.sink engine task)
  passed : gate app.environment request = none
  read : readBody request = .ok body
  checked : checkBody task.formFields body = .ok (.ok form)
  known : Dialect.ofName (.string engine) = .ok (some dialect)
  asked : task.operation form = .ok operation

/-- A request, if it is served. -/
def Admitted.of? (app : App) (r : Request) : Option (Admitted app r) :=
  match hr : route r, hg : gate app.environment r, hb : readBody r with
  | .ok (.sink engine task), none, .ok body =>
    match hf : checkBody task.formFields body, hd : Dialect.ofName (.string engine) with
    | .ok (.ok form), .ok (some d) =>
      match ho : task.operation form with
      | .ok op => some ⟨engine, task, body, form, d, op, hr, hg, hb, hf, hd, ho⟩
      | .error _ => none
    | _, _ => none
  | _, _, _ => none

variable {σ : Type} [Server σ] {app : App} {r : Request}

theorem Admitted.serve_eq (q : Admitted app r) (b : Backends σ) : app.serve r (.sink q.engine q.task) b =
    (do
      let report ← onSink ((sinkOf q.dialect q.form).run app.environment q.operation)
      return reportResponse report : Serving σ Response) b := by
  unfold App.serve
  rw [q.read]
  dsimp only
  rw [q.passed, q.checked]
  change serveSink app.environment q.engine q.task q.form b = _
  rw [serveSink, q.known]
  dsimp only
  rw [q.asked]

end Web

/-! ## What becomes of a bad address -/

end SinkKeeper
