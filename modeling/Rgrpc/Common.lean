/-
This file models the values that cross the boundaries of the package: message
buffers and metadata on the gRPC side, strings and errors on the R side, and
the conversions of `common.h` between them.

Of R, two facts are taken as given. `Rf_mkCharLen` raises an error on a string
with an embedded NUL byte, while `Rf_mkChar` and `Rf_mkString` read a C string
and so stop at its first NUL. `Rf_translateCharUTF8` raises an error on a string
marked with "bytes" encoding.
-/

import Mathlib.Data.List.Basic
import Mathlib.Tactic.Common

namespace Rgrpc

/-- A string of bytes: `std::string` on the C++ side, a raw vector on the R side. -/
abbrev Bytes := List UInt8

/-- Metadata as copied out of a gRPC context: `md_pairs`. -/
abbrev MdPairs := List (Bytes × Bytes)

/-- The text of an R error. -/
abbrev RError := String

/-! ### Message buffers -/

/-- A `grpc::ByteBuffer`: its slices, or `none` for a buffer that holds no message and whose
`Dump` fails. -/
structure ByteBuffer where
  slices : Option (List Bytes)
  deriving DecidableEq, Repr

/-- A default constructed buffer. -/
def ByteBuffer.unset : ByteBuffer := ⟨none⟩

/-- `grpc::ByteBuffer(&slice, 1)`: the buffer of one message sent from R. -/
def ByteBuffer.ofRaw (bytes : Bytes) : ByteBuffer := ⟨some [bytes]⟩

/-- `grpc_byte_buffer_to_string`: the slices in order, or `none` when `Dump` fails. -/
def grpcByteBufferToString (buffer : ByteBuffer) : Option Bytes :=
  buffer.slices.map List.flatten

@[simp]
theorem grpcByteBufferToString_ofRaw (bytes : Bytes) :
    grpcByteBufferToString (ByteBuffer.ofRaw bytes) = some bytes := by
  simp [grpcByteBufferToString, ByteBuffer.ofRaw]

/-! ### Status -/

/-- A `grpc::Status`. -/
structure Status where
  code : Int
  message : Bytes
  deriving DecidableEq, Repr

/-- `grpc::Status::OK`. -/
def Status.ok : Status := ⟨0, []⟩

/-! ### R strings -/

/-- An element of an R character vector: a string with its translation to UTF-8, or a string
marked with "bytes" encoding, which has none. -/
inductive RString
  | text (utf8 : Bytes)
  | marked (raw : Bytes)
  deriving DecidableEq, Repr

/-- `Rf_translateCharUTF8`. -/
def translateCharUTF8 : RString → Except RError Bytes
  | .text utf8 => .ok utf8
  | .marked _ => .error "translating strings with \"bytes\" encoding is not allowed"

/-- Whether `Rf_translateCharUTF8` returns. -/
def RString.translates : RString → Bool
  | .text _ => true
  | .marked _ => false

/-- A named character vector of metadata, as the R wrappers let it through. -/
abbrev RMetadata := List (RString × RString)

/-- Whether every name and value of the metadata translates. -/
def RMetadata.translates (metadata : RMetadata) : Bool :=
  metadata.all fun pair => pair.1.translates && pair.2.translates

/-- The loop `AddMetadata(translate(name), translate(value))`: what was added to the pairs
already there before the loop ended, and the error that ended it early. -/
def addMetadata (added : MdPairs) : RMetadata → MdPairs × Option RError
  | [] => (added, none)
  | (name, value) :: rest =>
    match translateCharUTF8 name with
    | .error error => (added, some error)
    | .ok key =>
      match translateCharUTF8 value with
      | .error error => (added, some error)
      | .ok text => addMetadata (added ++ [(key, text)]) rest

/-- The UTF-8 text of a string that translates. -/
def RString.utf8 : RString → Bytes
  | .text utf8 => utf8
  | .marked _ => []

/-- The metadata as gRPC gets it, when all of it translates. -/
def RMetadata.utf8 (metadata : RMetadata) : MdPairs :=
  metadata.map fun pair => (pair.1.utf8, pair.2.utf8)

theorem addMetadata_of_translates {metadata : RMetadata} (translates : metadata.translates = true)
    (added : MdPairs) : addMetadata added metadata = (added ++ metadata.utf8, none) := by
  induction metadata generalizing added with
  | nil => simp [addMetadata, RMetadata.utf8]
  | cons pair rest inductionHypothesis =>
    obtain ⟨name, value⟩ := pair
    rw [RMetadata.translates, List.all_cons, Bool.and_eq_true] at translates
    cases name with
    | marked raw => simp [RString.translates] at translates
    | text key =>
      cases value with
      | marked raw => simp [RString.translates] at translates
      | text text =>
        rw [addMetadata, translateCharUTF8, translateCharUTF8]
        show addMetadata (added ++ [(key, text)]) rest = _
        rw [inductionHypothesis translates.2, List.append_assoc]
        rfl

theorem addMetadata_error_iff (metadata : RMetadata) (added : MdPairs) :
    (addMetadata added metadata).2 = none ↔ metadata.translates = true := by
  constructor
  · intro clean
    induction metadata generalizing added with
    | nil => rfl
    | cons pair rest inductionHypothesis =>
      obtain ⟨name, value⟩ := pair
      cases name with
      | marked raw => exact absurd clean (by simp [addMetadata, translateCharUTF8])
      | text key =>
        cases value with
        | marked raw => exact absurd clean (by simp [addMetadata, translateCharUTF8])
        | text text =>
          rw [RMetadata.translates, List.all_cons]
          exact inductionHypothesis _ clean
  · intro translates
    rw [addMetadata_of_translates translates]

/-! ### Conversion to R -/

/-- `Rf_mkCharLen` on all the bytes of a C++ string. -/
def mkCharLen (bytes : Bytes) : Except RError Bytes :=
  if bytes.contains 0 then .error "embedded nul in string" else .ok bytes

/-- `Rf_mkChar` and `Rf_mkString` on the `c_str()` of a C++ string. -/
def mkString (bytes : Bytes) : Bytes :=
  bytes.takeWhile fun byte => byte != 0

/-- The conversion of one metadata pair inside `grpc_pairs_to_r`. -/
def pairToR (pair : Bytes × Bytes) : Except RError (Bytes × Bytes) := do
  let name ← mkCharLen pair.1
  let value ← mkCharLen pair.2
  return (name, value)

/-- `grpc_pairs_to_r`: a named character vector, pair by pair. -/
def grpcPairsToR (pairs : MdPairs) : Except RError MdPairs :=
  pairs.mapM pairToR

/-- A metadata pair with a NUL byte in its key or value. -/
def pairHasNul (pair : Bytes × Bytes) : Bool :=
  pair.1.contains 0 || pair.2.contains 0

theorem pairToR_of_not_nul {pair : Bytes × Bytes} (clean : pairHasNul pair = false) :
    pairToR pair = .ok pair := by
  rw [pairHasNul, Bool.or_eq_false_iff] at clean
  simp only [pairToR, mkCharLen, clean.1, clean.2]
  rfl

theorem pairToR_of_nul {pair : Bytes × Bytes} (nul : pairHasNul pair = true) :
    ∃ error, pairToR pair = .error error := by
  refine ⟨"embedded nul in string", ?_⟩
  rw [pairHasNul, Bool.or_eq_true] at nul
  unfold pairToR mkCharLen
  cases first : pair.1.contains 0 with
  | true => rfl
  | false =>
    rw [first] at nul
    have second : pair.2.contains 0 = true := by simpa using nul
    rw [second]
    rfl

end Rgrpc
