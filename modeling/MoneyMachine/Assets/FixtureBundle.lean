import MoneyMachine.Library.Crash
import MoneyMachine.Observability.Receipts
import Mathlib.Data.List.Infix

/-!
# FixtureBundle — the artifacts of one product in one directory

`render_bundle` paints its artifacts one after the other.  What it paints is a `Painting`: it records
artifacts and reads back files that it recorded.  On the directory each record is three operations, and
behind the painting come the bindings, the manifest and a verification.  Where the manifest exists,
nothing is painted: the listed files are verified and their rows are returned.

Painting itself (the browser, the renderers, ffmpeg) is a parameter, and so is what lies outside the
directory.
-/

namespace MoneyMachine
namespace Assets

open MoneyMachine.Library
open MoneyMachine.Library.Json
open MoneyMachine.Observability (asciiBytes utf8Decode splitlines)

/-! ## Data -/

/-- What a call raises. -/
inductive BundleError
  | manifestEmpty
  | pathEscaped
  | bytesChanged (relativePath : Text)
  | linksMissing
  | linksDisagree
  | bindingDisagrees
  | refuseReplacing (name : Text)
  | codec
  | notFound (name : Text)
  /-- A `JSONDecodeError`, a `UnicodeDecodeError`, a `KeyError` or a `TypeError` of a manifest. -/
  | malformed
  /-- What a renderer, a subprocess or a check of their output raises. -/
  | renderer (text : Text)
  deriving DecidableEq, Repr

inductive AssetKind
  | screenshot
  | listingImage
  | walkthrough
  | deliveryPdf
  deriving DecidableEq, Repr

def AssetKind.text : AssetKind → Text
  | .screenshot => lit "screenshot"
  | .listingImage => lit "listing_image"
  | .walkthrough => lit "walkthrough"
  | .deliveryPdf => lit "delivery_pdf"

inductive QaStatus
  | passed
  | stale
  deriving DecidableEq, Repr

def QaStatus.text : QaStatus → Text
  | .passed => lit "passed"
  | .stale => lit "stale"

structure BoundAsset where
  productId : Text
  specVersion : Int
  buildVersion : Int
  sourceScreenshotSha256 : List Text
  merchandisingVersion : Text
  templateVersion : Text
  outputSha256 : Text
  widthPx : Option Int
  heightPx : Option Int
  pageCount : Option Int
  qaStatus : QaStatus
  storageUri : Text
  kind : AssetKind
  deriving DecidableEq, Repr

/-- `asdict`, as `json` writes it. -/
def BoundAsset.asdict (asset : BoundAsset) : Value :=
  .obj (ofPairs
    [(lit "product_id", .str asset.productId),
      (lit "spec_version", .int asset.specVersion),
      (lit "build_version", .int asset.buildVersion),
      (lit "source_screenshot_sha256", .arr (asset.sourceScreenshotSha256.map .str)),
      (lit "merchandising_version", .str asset.merchandisingVersion),
      (lit "template_version", .str asset.templateVersion),
      (lit "output_sha256", .str asset.outputSha256),
      (lit "width_px", asset.widthPx.elim .null .int),
      (lit "height_px", asset.heightPx.elim .null .int),
      (lit "page_count", asset.pageCount.elim .null .int),
      (lit "qa_status", .str asset.qaStatus.text),
      (lit "storage_uri", .str asset.storageUri),
      (lit "kind", .str asset.kind.text)])

/-- One artifact as `record` is given it; `bound` is without its hash and its place. -/
structure Artifact where
  name : Text
  kind : Text
  value : Bytes
  parents : List Text
  bound : Option BoundAsset

/-- A picture, a video or a document of a renderer, with the binding of its lineage. -/
structure Rendered where
  bytes : Bytes
  bound : BoundAsset

structure BundleVariant where
  name : Text
  secretLink : Text
  deriving DecidableEq, Repr

/-- The directory of the bundle, and what lies outside it. -/
structure Place where
  /-- `str(directory)`. -/
  home : Text
  /-- `directory.parent.name`. -/
  runId : List Char
  /-- `str(directory / path)` for a path that is no plain name. -/
  elsewhere : Text → Text
  /-- The check of such a path, and the bytes there. -/
  outside : Text → Except BundleError Bytes

/-- The arguments of `render_bundle`, and the painting. -/
structure BundleInputs where
  place : Place
  sha256 : Bytes → List Char
  /-- `str(uuid5(spec.spec_id, name))`. -/
  artifactId : Text → List Char
  productId : List Char
  specVersion : Int
  buildVersion : Int
  variants : List BundleVariant
  /-- The values of the `secret_links` facts of the request. -/
  secretLinks : List Text
  /-- `len(request.variants)`. -/
  requestVariants : Nat
  /-- The bytes of `product-structure.json`, and the document of `product.html`. -/
  structureBytes : Bytes
  document : Except BundleError Bytes
  launch : Except BundleError Unit
  screenshot : BundleVariant → Except BundleError Bytes
  listingImages : List (Text × Bytes) → Except BundleError (List Rendered)
  walkthrough : List (Text × Bytes) → Except BundleError Rendered
  /-- ffmpeg on the source video, and ffprobe on the target. -/
  encode : Bytes → Except BundleError Bytes
  probeVideo : Bytes → Except BundleError Bytes
  /-- The format name and the codec name in the metadata. -/
  observed : Bytes → Except BundleError (Text × Text)
  readmePdf : Except BundleError Rendered
  giftPdf : Except BundleError Rendered
  /-- `delivery_link_uris`. -/
  deliveryLinkUris : Bytes → List Text → Except BundleError (List Text)
  readmeText : Bytes
  /-- The pydantic adapter of the bindings. -/
  validateAssets : Bytes → Except BundleError (List BoundAsset)
  /-- `==` of a length and a float. -/
  floatIs : FloatText → Nat → Bool

/-! ## Paths -/

/-- A name of the directory itself. -/
def isPlain (path : Text) : Bool :=
  decide (path ≠ [] ∧ path ≠ lit "." ∧ path ≠ lit ".." ∧ CodePoint.ofChar '/' ∉ path ∧
    CodePoint.ofChar '\x00' ∉ path)

/-- `str(directory / path)`. -/
def Place.under (place : Place) (path : Text) : Text :=
  if isPlain path then
    if place.home = lit "." then
      path
    else if place.home.getLast? = some (CodePoint.ofChar '/') then
      place.home ++ path
    else
      place.home ++ lit "/" ++ path
  else
    place.elsewhere path

/-! ## Rows -/

section Rows

variable (inp : BundleInputs)

def sha (value : Bytes) : Text :=
  (inp.sha256 value).map CodePoint.ofChar

/-- The identifier that `record` returns. -/
def artifactId (name : Text) : Text :=
  (inp.artifactId name).map CodePoint.ofChar

/-- The row of an artifact. -/
def Artifact.row (a : Artifact) : Value :=
  .obj (ofPairs
    [(lit "run_id", .str (inp.place.runId.map CodePoint.ofChar)),
      (lit "artifact_id", .str (artifactId inp a.name)),
      (lit "kind", .str a.kind),
      (lit "relative_path", .str a.name),
      (lit "sha256", .str (sha inp a.value)),
      (lit "byte_size", .int a.value.length),
      (lit "product_id", .str (inp.productId.map CodePoint.ofChar)),
      (lit "spec_version", .int inp.specVersion),
      (lit "build_version", .int inp.buildVersion),
      (lit "parent_artifact_ids", .arr (a.parents.map .str))])

/-- The binding of an artifact, with its hash and its place. -/
def Artifact.asset (a : Artifact) : Option BoundAsset :=
  a.bound.map (fun bound =>
    { bound with outputSha256 := sha inp a.value, storageUri := inp.place.under a.name })

def rowsOf (done : List Artifact) : List Value :=
  done.map (fun a => a.row inp)

def assetsOf (done : List Artifact) : List BoundAsset :=
  done.filterMap (fun a => a.asset inp)

end Rows

/-! ## Painting -/

/-- What the painting asks for. -/
inductive PaintOp
  | record (artifact : Artifact)
  | recall (name : Text)

abbrev PaintOp.Ans : PaintOp → Type
  | .record _ => Unit
  | .recall _ => Bytes

abbrev Painting (α : Type) := Script PaintOp PaintOp.Ans BundleError α

/-- `screenshots[name] = path`, in the order of a dictionary. -/
def setShot (shots : List (Text × Text)) (name path : Text) : List (Text × Text) :=
  if shots.any (fun shot => decide (shot.1 = name)) then
    shots.map (fun shot => if shot.1 = name then (name, path) else shot)
  else
    shots ++ [(name, path)]

/-- `IMAGE_ROLES`, and the roles of the other frames. -/
def shotRoles : List Text :=
  ["hero", "overview", "hub_1", "hub_2", "hub_3", "hub_4", "hub_5", "colour_options", "devices",
    "how_it_works", "dashboard", "notification_panel", "strongest_hubs", "colour_options",
    "duplication_access", "hub_1", "hub_2", "hub_3", "hub_4", "hub_5", "notification"].map lit

/-- `str(index)`. -/
def decimal (n : Nat) : Text :=
  (Nat.toDigits 10 n).map CodePoint.ofChar

/-- `f"{index:02}"`. -/
def decimal2 (n : Nat) : Text :=
  if n < 10 then lit "0" ++ decimal n else decimal n

def screenshotName (index : Nat) : Text :=
  lit "screenshot-" ++ decimal index ++ lit ".png"

def listingName (index : Nat) : Text :=
  lit "listing-" ++ decimal2 (index + 1) ++ lit ".png"

section Painting

variable (inp : BundleInputs)

/-- `record`: the artifacts recorded so far are the rows and the assets. -/
def record (done : List Artifact) (a : Artifact) : Painting (List Artifact) := do
  Script.request (PaintOp.record a)
  return done ++ [a]

/-- `readme_links_for`. -/
def readmeLinksFor (secretLink : Text) (variantCount : Nat) : Except BundleError (List Text) :=
  if variantCount < 1 then
    .error .linksMissing
  else
    .ok (List.replicate (variantCount + 1) secretLink)

/-- `expected_readme_links`. -/
def expectedReadmeLinks : Except BundleError (List Text) :=
  match inp.secretLinks with
  | [link] => readmeLinksFor link inp.requestVariants
  | _ => .error .linksMissing

/-- `admit_delivery_pdf`. -/
def admitDeliveryPdf (pdf : Bytes) (expected : List Text) : Except BundleError Unit := do
  let actual ← inp.deliveryLinkUris pdf expected
  if actual = expected then .ok () else .error .linksDisagree

/-- The binding of a screenshot. -/
def screenshotBound (digest name : Text) : BoundAsset where
  productId := inp.productId.map CodePoint.ofChar
  specVersion := inp.specVersion
  buildVersion := inp.buildVersion
  sourceScreenshotSha256 := []
  merchandisingVersion := []
  templateVersion := lit "actual-fixture-product-1"
  outputSha256 := digest
  widthPx := some 480
  heightPx := some 270
  pageCount := none
  qaStatus := .passed
  storageUri := inp.place.under name
  kind := .screenshot

/-- The structure of the product and its export. -/
def paintProduct : Painting (List Artifact) := do
  let done ← record []
    { name := lit "product-structure.json", kind := lit "product_structure",
      value := inp.structureBytes, parents := [], bound := none }
  let document ← Script.ofExcept inp.document
  record done
    { name := lit "product.html", kind := lit "product_html", value := document,
      parents := [artifactId inp (lit "product-structure.json")], bound := none }

/-- One screenshot for each variant. -/
def paintScreenshots (index : Nat) (shots : List (Text × Text)) (done : List Artifact) :
    List BundleVariant → Painting (List (Text × Text) × List Artifact)
  | [] => return (shots, done)
  | variant :: rest => do
      let value ← Script.ofExcept (inp.screenshot variant)
      let done ← record done
        { name := screenshotName index, kind := lit "screenshot", value := value,
          parents := [artifactId inp (lit "product.html")],
          bound := some (screenshotBound inp (sha inp value) (screenshotName index)) }
      paintScreenshots (index + 1) (setShot shots variant.name (screenshotName index)) done rest

/-- The pictures that the renderers are given, read from the directory. -/
def recallShots : List (Text × Text) → Painting (List (Text × Bytes))
  | [] => return []
  | (name, path) :: rest => do
      let value ← Script.request (PaintOp.recall path)
      let values ← recallShots rest
      return (name, value) :: values

/-- The identifiers of the screenshots. -/
def sourceIds : List Text :=
  (List.range inp.variants.length).map (fun index => artifactId inp (screenshotName index))

def paintListing (index : Nat) (done : List Artifact) :
    List Rendered → Painting (List Artifact)
  | [] => return done
  | image :: rest => do
      let done ← record done
        { name := listingName index, kind := lit "listing_image", value := image.bytes,
          parents := sourceIds inp, bound := some image.bound }
      paintListing (index + 1) done rest

/-- `"mp4" not in format_name or codec_name != "h264"`. -/
def checkCodec (metadata : Bytes) : Except BundleError Unit := do
  let (format, codec) ← inp.observed metadata
  if lit "mp4" <:+: format ∧ codec = lit "h264" then .ok () else .error .codec

def paintVideo (frames : List (Text × Bytes)) (done : List Artifact) :
    Painting (List Artifact) := do
  let video ← Script.ofExcept (inp.walkthrough frames)
  let done ← record done
    { name := lit "walkthrough.mkv", kind := lit "walkthrough_source", value := video.bytes,
      parents := sourceIds inp, bound := none }
  let source ← Script.request (PaintOp.recall (lit "walkthrough.mkv"))
  let encoded ← Script.ofExcept (inp.encode source)
  let done ← record done
    { name := lit "walkthrough.mp4", kind := lit "walkthrough", value := encoded,
      parents := [artifactId inp (lit "walkthrough.mkv")], bound := some video.bound }
  let target ← Script.request (PaintOp.recall (lit "walkthrough.mp4"))
  let metadata ← Script.ofExcept (inp.probeVideo target)
  Script.ofExcept (checkCodec inp metadata)
  record done
    { name := lit "video-probe.json", kind := lit "video_probe", value := metadata,
      parents := [artifactId inp (lit "walkthrough.mkv")], bound := none }

/-- One delivery PDF, admitted before it is recorded. -/
def paintPdf (name : Text) (pdf : Except BundleError Rendered)
    (expected : Except BundleError (List Text)) (done : List Artifact) :
    Painting (List Artifact) := do
  let pdf ← Script.ofExcept pdf
  let expected ← Script.ofExcept expected
  Script.ofExcept (admitDeliveryPdf inp pdf.bytes expected)
  record done
    { name := name, kind := lit "delivery_pdf", value := pdf.bytes, parents := [],
      bound := some pdf.bound }

/-- The pictures of the dictionary, the roles of the frames included. -/
@[irreducible] def framesOf (shots : List (Text × Text)) : List (Text × Text) :=
  shotRoles.foldl (fun shots role => setShot shots role (screenshotName 0)) shots

/-- The listing images and the video. -/
def paintPictures (shots : List (Text × Text)) (done : List Artifact) :
    Painting (List Artifact) := do
  let frames ← recallShots (framesOf shots)
  let images ← Script.ofExcept (inp.listingImages frames)
  let done ← paintListing inp 0 done images
  paintVideo inp frames done

/-- The delivery PDFs and the text. -/
def paintDocuments (done : List Artifact) : Painting (List Artifact) := do
  let done ← paintPdf inp (lit "readme.pdf") inp.readmePdf (expectedReadmeLinks inp) done
  let done ← paintPdf inp (lit "free_gift.pdf") inp.giftPdf (.ok []) done
  record done
    { name := lit "README.txt", kind := lit "readme_text", value := inp.readmeText,
      parents := [artifactId inp (lit "product-structure.json")], bound := none }

/-- Everything that is recorded, in the order of the source. -/
def painting : Painting (List Artifact) := do
  let done ← paintProduct inp
  Script.ofExcept inp.launch
  let (shots, done) ← paintScreenshots inp 0 [] done inp.variants
  let done ← paintPictures inp shots done
  paintDocuments inp done

end Painting

/-! ## Files -/

/-- The files of the directory. -/
abbrev Files := Text → Option Bytes

def Files.empty : Files := fun _ => none

def Files.set (files : Files) (name : Text) (value : Bytes) : Files :=
  Function.update files name (some value)

inductive FileOp
  | present (name : Text)
  | read (name : Text)
  | write (name : Text) (value : Bytes)
  | replace (source target : Text)

abbrev FileOp.Ans : FileOp → Type
  | .present _ => Bool
  | .read _ => Bytes
  | _ => Unit

abbrev Bundle (α : Type) := Script FileOp FileOp.Ans BundleError α

/-- One operation. -/
def Files.perform (files : Files) (_ : Unit) : (op : FileOp) → Except BundleError op.Ans × Files
  | .present name => (.ok (files name).isSome, files)
  | .read name =>
    match files name with
    | some value => (.ok value, files)
    | none => (.error (.notFound name), files)
  | .write name value => (.ok (), files.set name value)
  | .replace source target =>
    match files source with
    | some value => (.ok (), Function.update (files.set target value) source none)
    | none => (.error (.notFound source), files)

/-- What is left of an operation when the process dies inside it: of a write, the first `k` bytes. -/
def Files.torn (files : Files) (op : FileOp) (k : Nat) : Files :=
  match op with
  | .write name value => files.set name (value.take k)
  | _ => files

/-- The file operations of `record`. -/
def place (name : Text) (value : Bytes) : Bundle Unit := do
  let there ← Script.request (FileOp.present name)
  if there then
    let found ← Script.request (FileOp.read name)
    if found = value then
      Script.request (FileOp.write name value)
    else
      .raise (.refuseReplacing name)
  else
    Script.request (FileOp.write name value)

/-- The operations of the painting on the directory. -/
def onDisk : (op : PaintOp) → Bundle op.Ans
  | .record a => place a.name a.value
  | .recall name => Script.request (FileOp.read name)

/-! ## The manifest -/

def manifestName : Text := lit "lineage.jsonl"

def assetsName : Text := lit "bound-assets.json"

/-- `path.with_suffix(path.suffix + ".next")`. -/
def assetsNextName : Text := lit "bound-assets.json.next"

/-- A line break and the indentation of `json.dumps(indent=2)`. -/
def indentation (depth : Nat) : List Char :=
  '\n' :: List.replicate (2 * depth) ' '

mutual

/-- `json.dumps(value, sort_keys=True, indent=2)` at a depth. -/
def dumpsIndented (depth : Nat) : Value → List Char
  | .arr (value :: rest) =>
    '[' :: indentation (depth + 1) ++ dumpsIndented (depth + 1) value ++
      dumpsIndentedItems depth rest
  | .obj ((name, value) :: rest) =>
    '{' :: indentation (depth + 1) ++ quote name ++ ':' :: ' ' :: dumpsIndented (depth + 1) value ++
      dumpsIndentedMembers depth rest
  | value => dumps .spaced value

def dumpsIndentedItems (depth : Nat) : List Value → List Char
  | [] => indentation depth ++ [']']
  | value :: rest =>
    ',' :: indentation (depth + 1) ++ dumpsIndented (depth + 1) value ++
      dumpsIndentedItems depth rest

def dumpsIndentedMembers (depth : Nat) : List (Text × Value) → List Char
  | [] => indentation depth ++ ['}']
  | (name, value) :: rest =>
    ',' :: indentation (depth + 1) ++ quote name ++ ':' :: ' ' ::
      dumpsIndented (depth + 1) value ++ dumpsIndentedMembers depth rest

end

/-- The bytes that `write_json` writes. -/
def jsonFile (value : Value) : Bytes :=
  asciiBytes (dumpsIndented 0 value ++ ['\n'])

/-- `write_json`. -/
def writeJson (name temporary : Text) (value : Value) : Bundle Unit := do
  Script.request (FileOp.write temporary (jsonFile value))
  Script.request (FileOp.replace temporary name)

/-- The bindings, as they are saved. -/
def assetsValue (assets : List BoundAsset) : Value :=
  .arr (assets.map BoundAsset.asdict)

/-- The text of the manifest. -/
def manifestText (rows : List Value) : List Char :=
  rows.flatMap (fun row => dumps .spaced row ++ ['\n'])

/-! ## Verification -/

section Verify

variable (inp : BundleInputs)

/-- `row[name]`. -/
def member (row : Value) (name : String) : Except BundleError Value :=
  match row with
  | .obj members =>
    match members.lookup (lit name) with
    | some value => .ok value
    | none => .error .malformed
  | _ => .error .malformed

/-- `row["relative_path"]`, as `/` takes it. -/
def relativePath (row : Value) : Except BundleError Text := do
  let found ← member row "relative_path"
  match found with
  | .str path => .ok path
  | _ => .error .malformed

/-- `length == value`. -/
def sameSize (length : Nat) : Value → Bool
  | .int n => decide (n = length)
  | .bool b => decide ((if b then 1 else 0) = length)
  | .float x => inp.floatIs x length
  | _ => false

/-- `hash == value`. -/
def sameText (digest : Text) : Value → Bool
  | .str t => decide (t = digest)
  | _ => false

/-- `len(value) != row["byte_size"] or sha(value) != row["sha256"]`, and what follows. -/
def checkBytes (row : Value) (path : Text) (value : Bytes) : Except BundleError Unit := do
  let size ← member row "byte_size"
  if sameSize inp value.length size then
    let digest ← member row "sha256"
    if sameText (sha inp value) digest then .ok () else .error (.bytesChanged path)
  else
    .error (.bytesChanged path)

/-- The file that a row names. -/
def readPath (path : Text) : Bundle Bytes :=
  if isPlain path then
    Script.request (FileOp.read path)
  else
    Script.ofExcept (inp.place.outside path)

def verifyRow (row : Value) : Bundle Unit := do
  let path ← Script.ofExcept (relativePath row)
  let value ← readPath inp path
  Script.ofExcept (checkBytes inp row path value)

def verifyRows : List Value → Bundle Unit
  | [] => return ()
  | row :: rest => do
      verifyRow inp row
      verifyRows rest

/-- `[json.loads(line) for line in lines]`. -/
def loadsAll : List (List Char) → Option (List Value)
  | [] => some []
  | line :: rest => do
      let row ← loads line
      let rows ← loadsAll rest
      return row :: rows

/-- The rows of a manifest's bytes. -/
def readManifest (bytes : Bytes) : Option (List Value) := do
  let text ← utf8Decode bytes
  loadsAll (splitlines text)

/-- `verify_bundle`. -/
def verifyBundle : Bundle (List Value) := do
  let bytes ← Script.request (FileOp.read manifestName)
  match readManifest bytes with
  | none => .raise .malformed
  | some [] => .raise .manifestEmpty
  | some rows => do
      verifyRows inp rows
      return rows

/-- `validate_delivery_pdfs`. -/
def validateDeliveryPdfs (readmeLinks : List Text) : Bundle Unit := do
  let readme ← Script.request (FileOp.read (lit "readme.pdf"))
  Script.ofExcept (admitDeliveryPdf inp readme readmeLinks)
  let gift ← Script.request (FileOp.read (lit "free_gift.pdf"))
  Script.ofExcept (admitDeliveryPdf inp gift [])

/-- The rows whose path is a saved asset's place. -/
def matchedRows (asset : BoundAsset) : List Value → Except BundleError (List Value)
  | [] => .ok []
  | row :: rest => do
      let path ← relativePath row
      let matched ← matchedRows asset rest
      .ok (if inp.place.under path = asset.storageUri then row :: matched else matched)

/-- `len(matched) != 1 or matched[0]["sha256"] != asset.output_sha256`, and what follows. -/
def checkAsset (rows : List Value) (asset : BoundAsset) : Except BundleError Unit := do
  let matched ← matchedRows inp asset rows
  match matched with
  | [row] => do
      let digest ← member row "sha256"
      if sameText asset.outputSha256 digest then .ok () else .error .bindingDisagrees
  | _ => .error .bindingDisagrees

def checkAssets (rows : List Value) : List BoundAsset → Except BundleError Unit
  | [] => .ok ()
  | asset :: rest => do
      checkAsset inp rows asset
      checkAssets rows rest

/-- `load_verified_assets`. -/
def loadVerifiedAssets (rows : List Value) : Bundle (List BoundAsset) := do
  let bytes ← Script.request (FileOp.read assetsName)
  let saved ← Script.ofExcept (inp.validateAssets bytes)
  Script.ofExcept (checkAssets inp rows saved)
  return saved

/-! ## The bundle -/

/-- Where the manifest exists. -/
def verifiedBundle : Bundle (List Value × List BoundAsset) := do
  let rows ← verifyBundle inp
  let links ← Script.ofExcept (expectedReadmeLinks inp)
  validateDeliveryPdfs inp links
  let saved ← loadVerifiedAssets inp rows
  return (rows, saved)

/-- Behind the painting. -/
def finishBundle (done : List Artifact) : Bundle (List Value × List BoundAsset) := do
  writeJson assetsName assetsNextName (assetsValue (assetsOf inp done))
  Script.request (FileOp.write manifestName (asciiBytes (manifestText (rowsOf inp done))))
  let _ ← verifyBundle inp
  return (rowsOf inp done, assetsOf inp done)

def paintedBundle : Bundle (List Value × List BoundAsset) := do
  let done ← (painting inp).expand onDisk
  finishBundle inp done

/-- `render_bundle`. -/
def renderBundle : Bundle (List Value × List BoundAsset) := do
  let there ← Script.request (FileOp.present manifestName)
  if there then verifiedBundle inp else paintedBundle inp

/-! ## Crashes -/

/-- Where a call dies: after `ops` operations, before the next one or, with a number of bytes, inside
it. -/
structure BundleCrash where
  ops : Nat
  bytes : Option Nat
  deriving DecidableEq, Repr

/-- The directory after a call that dies. -/
def crashed (files : Files) (crash : BundleCrash) : Files :=
  (renderBundle inp).cut Files.perform () Files.torn files crash.ops crash.bytes

/-- The directory after several. -/
def leftBy (crashes : List BundleCrash) : Files :=
  crashes.foldl (crashed inp) Files.empty

/-- What a call returns or raises. -/
def renderedBy (files : Files) : Except BundleError (List Value × List BoundAsset) :=
  ((renderBundle inp).run Files.perform () files).1

end Verify

end Assets
end MoneyMachine
