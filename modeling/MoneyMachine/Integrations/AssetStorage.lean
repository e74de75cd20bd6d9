import Mathlib.Data.Char
import Mathlib.Data.List.Lex
import MoneyMachine.Domain.Basic
import MoneyMachine.Domain.Text
import MoneyMachine.Library.Disk

/-!
# AssetStorage — versioned artifact keys

What the local store and the simulated S3 store share: the roles, the checks of a call's arguments and
the URI of an object.  URIs, names and digests are lists of characters, so that they can be cut at their
slashes.
-/

namespace MoneyMachine
namespace Integrations
namespace Storage

open MoneyMachine.Domain
open MoneyMachine.Library
open MoneyMachine.Library.Disk

abbrev Text := List Char

inductive StorageRole
  | temporary
  | published
  deriving DecidableEq, Repr

/-- The role as a directory is named. -/
def StorageRole.text : StorageRole → Text
  | .temporary => "temporary".toList
  | .published => "published".toList

/-- `spec_version`: a `bool` is an `int` too. -/
inductive SpecVersion
  | int (n : Int)
  | bool (b : Bool)
  deriving DecidableEq, Repr

/-- `str(spec_version)`. -/
def SpecVersion.str : SpecVersion → Text
  | .int (.ofNat n) => Nat.toDigits 10 n
  | .int (.negSucc n) => '-' :: Nat.toDigits 10 (n + 1)
  | .bool true => "True".toList
  | .bool false => "False".toList

structure StoredObject where
  storageUri : Text
  sha256 : Text
  byteCount : Nat
  role : StorageRole
  deriving DecidableEq, Repr

/-- A `ValueError` with its message, an `OSError`, or an interruption. -/
inductive Raised
  | value (message : String)
  | os (errno : Errno)
  | interrupted
  deriving DecidableEq, Repr

/-! ## Arguments -/

/-- `[0-9a-f]{64}`. -/
def isHex64 (text : Text) : Bool :=
  decide (text.length = 64) && text.all isHexDigit

def refuseSpec : SpecVersion → Except Raised Unit
  | .bool _ => .error (.value "storage spec")
  | .int n => if n < 1 then .error (.value "storage spec") else .ok ()

def requireDigest (sha256 : Bytes → Text) (data : Bytes) (digest : Text) : Except Raised Unit :=
  if digest.length ≠ 64 then
    .error (.value "storage hash")
  else if digest.any (fun c => !isHexDigit c) then
    .error (.value "storage hash")
  else if sha256 data ≠ digest then
    .error (.value "storage digest")
  else
    .ok ()

def refuseCollision (existing data : Bytes) : Except Raised Unit :=
  if existing ≠ data then .error (.value "storage collision") else .ok ()

inductive Scheme
  | fixture
  | temp
  | s3
  | s3temp
  deriving DecidableEq, Repr

/-- `_prefix`. -/
def Scheme.text : Scheme → Text
  | .fixture => "fixture://".toList
  | .temp => "temp://".toList
  | .s3 => "s3://simulation/".toList
  | .s3temp => "s3://temporary/".toList

/-- `f"{product_id}/{spec_version}/{sha256}"`. -/
def versionedKey (product : Uuid) (spec : SpecVersion) (digest : Text) : Text :=
  uuidChars product ++ '/' :: (spec.str ++ '/' :: digest)

def objectUri (scheme : Scheme) (product : Uuid) (spec : SpecVersion) (digest : Text) :
    Except Raised Text :=
  match refuseSpec spec with
  | .error e => .error e
  | .ok _ => .ok (scheme.text ++ versionedKey product spec digest)

def refusePublished (uri : Text) : Except Raised Unit :=
  if Scheme.fixture.text.isPrefixOf uri then
    .error (.value "storage published")
  else if Scheme.s3.text.isPrefixOf uri then
    .error (.value "storage published")
  else
    .ok ()

theorem requireDigest_eq_ok_iff {sha256 : Bytes → Text} {data : Bytes} {digest : Text} :
    requireDigest sha256 data digest = .ok () ↔ isHex64 digest = true ∧ sha256 data = digest := by
  unfold requireDigest isHex64
  split_ifs <;> simp_all

/-! ## Calls -/

/-- One call of a store, with its arguments. -/
inductive StoreCall
  | publish (product : Uuid) (spec : SpecVersion) (sha256 : Text) (data : Bytes)
  | putTemporary (product : Uuid) (spec : SpecVersion) (sha256 : Text) (data : Bytes)
  | read (uri : Text)
  | discard (uri : Text)
  | cleanupTemporary (product : Uuid) (spec : SpecVersion) (keep : Text)
  deriving DecidableEq, Repr

/-- What a call returns. -/
inductive StoreAnswer
  | stored (object : StoredObject)
  | bytes (data : Bytes)
  | none
  | removed (digests : List Text)
  deriving DecidableEq, Repr

end Storage
end Integrations
end MoneyMachine
