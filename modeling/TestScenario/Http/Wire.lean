import TestScenario.Decimal.Reading
import TestScenario.Http.Message
import TestScenario.Text.Blank
import TestScenario.Url.Reader

/-!
Requests and answers as bytes on a connection that is closed behind the answer.
-/

namespace TestScenario.Http

/-! ### Requests -/

/-- The name or the address that a request goes to. -/
def Request.hostName (r : Request) : String := (r.url.host.map Url.Host.text).getD ""

/-- The port that a request goes to. -/
def Request.port (r : Request) : Nat := (r.url.port <|> Url.usualPorts.lookup r.url.scheme).getD 80

/-- What a request asks its host for. -/
def Request.target (r : Request) : String := r.url.path.written ++ (r.url.query.map ("?" ++ ·)).getD ""

/-- The headers that the connection needs. -/
def Request.connectionHeaders (r : Request) : List (String × String) :=
  let port := (r.url.port.map fun p => ":" ++ toString p).getD ""
  let length := match r.body with
    | none => []
    | some body => [("Content-Length", toString body.utf8ByteSize)]
  [("Host", r.hostName ++ port), ("Accept", "*/*"), ("Connection", "close")] ++ length

/-- The headers of a request with those that the connection needs, of which it may bring its own. -/
def Request.allHeaders (r : Request) : List (String × String) :=
  r.connectionHeaders.filter (fun (n, _) => !r.headers.any fun (m, _) => Text.sameIgnoringCase n m) ++ r.headers

/-- A request as text. -/
def Request.text (r : Request) : String :=
  r.method ++ " " ++ r.target ++ " HTTP/1.1\r\n" ++ String.join (r.allHeaders.map fun (n, v) => n ++ ": " ++ v ++ "\r\n")
    ++ "\r\n" ++ r.body.getD ""

/-! ### Answers -/

/-- The line that some bytes begin with, and the bytes behind its end. -/
def line : List UInt8 → Option (List UInt8 × List UInt8)
  | [] => none
  | b :: rest =>
    if b == 0x0A then some ([], rest)
    else (line rest).map fun (l, rest) => (if b == 0x0D && l.isEmpty then [] else b :: l, rest)

theorem line_shorter {bytes l rest : List UInt8} (h : line bytes = some (l, rest)) : rest.length < bytes.length := by
  induction bytes generalizing l with
  | nil => simp [line] at h
  | cons b bs ih =>
    unfold line at h
    split at h
    · simp only [Option.some.injEq, Prod.mk.injEq] at h
      obtain ⟨_, rfl⟩ := h
      simp
    · obtain ⟨⟨l₁, r₁⟩, hl, he⟩ := Option.map_eq_some_iff.1 h
      simp only [Prod.mk.injEq] at he
      obtain ⟨_, rfl⟩ := he
      exact Nat.lt_succ_of_lt (ih hl)

/-- The bytes without blanks around them. -/
def trimBytes (bytes : List UInt8) : List UInt8 :=
  let isBlank (b : UInt8) : Bool := b == 0x20 || b == 0x09
  (((bytes.dropWhile isBlank).reverse).dropWhile isBlank).reverse

/-- The headers up to the first empty line, and the bytes behind it. -/
def headerLines (bytes : List UInt8) : Option (List (String × List UInt8) × List UInt8) :=
  match _h : line bytes with
  | none => none
  | some ([], rest) => some ([], rest)
  | some (l, rest) =>
    (headerLines rest).map fun (hs, rest) =>
      let name := l.takeWhile (· != 0x3A)
      ((Text.lowerAscii (Text.ofUtf8Lossy name), trimBytes (l.drop (name.length + 1))) :: hs, rest)
termination_by bytes.length
decreasing_by exact line_shorter (by assumption)

/-- The pieces of a body up to the empty one, each with its size in front. -/
def chunks : (fuel : Nat) → List UInt8 → Option (List UInt8)
  | 0, _ => none
  | fuel + 1, bytes => do
    let (l, rest) ← line bytes
    let size ← Decimal.readDigits 16 Decimal.hexValue ((Text.ofUtf8Lossy l).toList.takeWhile fun c =>
      (Decimal.hexValue c).isSome)
    if size == 0 then some []
    else if rest.length < size then none
    else
      let (_, after) ← line (rest.drop size)
      (rest.take size ++ ·) <$> chunks fuel after

/-- The value of a header as text. -/
def headerOf (headers : List (String × List UInt8)) (name : String) : Option String := (headers.lookup name).map headerText

/-- The body of an answer among the bytes behind its headers. -/
def bodyBytes (headers : List (String × List UInt8)) (bytes : List UInt8) : Option (List UInt8) :=
  if (headerOf headers "transfer-encoding").any (Text.sameIgnoringCase "chunked") then chunks bytes.length bytes
  else match (headerOf headers "content-length").bind fun s => Decimal.readNat s.toList with
    | none => some bytes
    | some size => if bytes.length < size then none else some (bytes.take size)

/-- The status in the first line of an answer. -/
def statusOf (l : List UInt8) : Option Nat :=
  match (Text.ofUtf8Lossy l).splitOn " " with
  | version :: code :: _ => if version.startsWith "HTTP/1." then Decimal.readNat code.toList else none
  | _ => none

/-- The answer in some bytes; what only announces an answer is passed over. -/
def Response.ofBytes (fuel : Nat) (bytes : List UInt8) : Option Response :=
  match fuel with
  | 0 => none
  | fuel + 1 => do
    let (first, rest) ← line bytes
    let status ← statusOf first
    let (headers, rest) ← headerLines rest
    if 100 ≤ status && status < 200 then ofBytes fuel rest
    else
      let body : Except Fault String := match bodyBytes headers rest with
        | some bytes => .ok (Text.ofUtf8Lossy bytes)
        | none => .error ⟨["request or response body error", "end of file before message length reached"]⟩
      some { status, headers, body }

/-- The cause when an answer makes no sense. -/
def noAnswer : Fault := ⟨["client error (SendRequest)", "connection closed before message completed"]⟩

/-- The answer in all the bytes that a connection brought. -/
def readResponse (bytes : List UInt8) : Except Fault Response :=
  match Response.ofBytes (bytes.length + 1) bytes with
  | some answer => .ok answer
  | none => .error noAnswer

end TestScenario.Http
