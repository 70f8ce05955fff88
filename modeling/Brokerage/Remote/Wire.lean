import Brokerage.Remote.Exchange
import Brokerage.Text.Utf8

/-! # Exchanges on a connection

How a request is written as a message, and how the reply is read from everything that the service
sends until it closes the connection.
-/

namespace Brokerage.Remote

namespace Url

def host (u : Url) : String := String.ofList (u.authority.toList.takeWhile (· != ':'))

/-- The port, eighty unless the URL names one. -/
def port (u : Url) : Nat :=
  match (u.authority.toList.dropWhile (· != ':')).drop 1 with
  | [] => 80
  | digits => ofDigits (digits.filterMap digitValue?)

end Url

namespace Request

/-- The message of a request. It asks for the connection to be closed after the reply. -/
def message (request : Request) (url : Url) : String :=
  let body := (request.body?.map (·.text)).getD ""
  let kind :=
    match request.body? with
    | some _ => "Content-Type: application/json\r\n"
    | none => ""
  request.method ++ " " ++ url.target ++ " HTTP/1.1\r\nHost: " ++ url.authority ++
    "\r\nAccept: application/json\r\nConnection: close\r\n" ++ kind ++ "Content-Length: " ++
    String.ofList (decimalDigits body.utf8ByteSize) ++ "\r\n\r\n" ++ body

end Request

namespace Reply

def lineEnd : List UInt8 := [13, 10]

/-- Split bytes at the first place where a mark stands; none if it stands nowhere. -/
def cut? (mark : List UInt8) : List UInt8 → Option (List UInt8 × List UInt8)
  | [] => if mark = [] then some ([], []) else none
  | b :: rest =>
    if mark.isPrefixOf (b :: rest) then some ([], (b :: rest).drop mark.length)
    else (cut? mark rest).map fun (front, rest) => (b :: front, rest)

/-- A text without the blanks around it, in small letters. -/
def plain (text : List Char) : List Char :=
  ((trimFront (trimFront text).reverse).reverse).map Char.toLower

def header (line : List Char) : List Char × List Char :=
  (plain (line.takeWhile (· != ':')), plain ((line.dropWhile (· != ':')).drop 1))

/-- Join the pieces of a body that is sent in pieces, each behind its size. -/
def joinPieces : Nat → List UInt8 → Option (List UInt8)
  | 0, _ => none
  | fuel + 1, bytes => do
    let (size, rest) ← cut? lineEnd bytes
    let digits := (Utf8.decodeLossy size).takeWhile fun c => (hexValue? c).isSome
    if digits = [] then none
    let count := digits.foldl (fun n c => 16 * n + (hexValue? c).getD 0) 0
    if count = 0 then return []
    if rest.length < count then none
    return rest.take count ++ (← joinPieces fuel (rest.drop (count + 2)))

/-- The body behind some headers; none if a part of it is missing. -/
def body? (headers : List (List Char × List Char)) (bytes : List UInt8) : Option (List UInt8) :=
  if headers.lookup "transfer-encoding".toList = some "chunked".toList then
    joinPieces bytes.length bytes
  else
    match headers.lookup "content-length".toList with
    | some digits =>
      let count := ofDigits (digits.filterMap digitValue?)
      if bytes.length < count then none else some (bytes.take count)
    | none => some bytes

/-- Read the reply from all that was sent. -/
def ofBytes? (bytes : List UInt8) : Option Reply := do
  let (front, rest) ← cut? (lineEnd ++ lineEnd) bytes
  let lines := (Utf8.decodeLossy front).splitOn '\n'
  let status := ((lines.headD []).splitOn ' ').getD 1 []
  if status = [] || !(status.all fun c => (digitValue? c).isSome) then none
  let body ← body? (lines.tail.map header) rest
  return .answer (ofDigits (status.filterMap digitValue?)) (String.ofList (Utf8.decodeLossy body))

/-- A reply that cannot be read is lost. -/
def ofBytes (bytes : List UInt8) : Reply := (ofBytes? bytes).getD .lost

end Reply
end Brokerage.Remote
