import ListingCrawl.Record.Basic
import ListingCrawl.Record.Images
import ListingCrawl.Text.Upper

/-! The canonical form of a record. Fields of the wrong JSON type are left as they are, so that the
contract can reject them. -/

namespace ListingCrawl

/-! ### Variations -/

namespace Variation

/-- The images of a variation: its single image first, then its list. -/
def imagesOf (v : Fields) : List String :=
  Images.ofJson (.array ((v.get? "image").toList ++ Images.items ((v.get? "images").getD .null)))

/-- Puts the images into a variation, the first of them also as its single image. -/
def setImages (v : Fields) (images : List String) : Fields :=
  let v := match images with
    | first :: _ => v.insert "image" (.string first)
    | [] => v.erase "image"
  v.insert "images" (Images.toJson images)

def isImage : Option Json → Bool
  | none | some .null | some (.string _) => true
  | _ => false

def trimTitle (v : Fields) : Fields :=
  match v.text? "title" with
  | some title => v.insert "title" (.string (Text.trim title))
  | none => v

/-- Trims the title and merges the image and the list of images. -/
def normalizeFields (v : Fields) : Fields :=
  let v := trimTitle v
  if isImage (v.get? "image") && Images.isField (v.get? "images") then setImages v (imagesOf v) else v

def normalize : Json → Json
  | .object fields => .object (normalizeFields fields)
  | v => v

end Variation

/-! ### Records -/

namespace Record

/-- The currency trimmed and in upper case, or removed if it is blank. -/
def normalizeCurrency (r : Record) : Record :=
  match r.text? "currency" with
  | none => r
  | some currency =>
    let currency := Text.upper (Text.trim currency)
    if currency.isEmpty then r.erase "currency" else r.insertText "currency" currency

/-- A text as price trimmed; a blank or null price removed. -/
def normalizePrice (r : Record) : Record :=
  match r.get? "price" with
  | some .null => r.erase "price"
  | some (.string s) =>
    match Text.trimmed? s with
    | none => r.erase "price"
    | some price => r.insertText "price" price
  | _ => r

def normalizeImages (r : Record) : Record :=
  if Images.isField (r.get? "images") then
    r.insert "images" (Images.toJson (Images.ofJson ((r.get? "images").getD .null)))
  else r

def normalizeVariations (r : Record) : Record :=
  match r.get? "variations" with
  | some (.array items) => r.insert "variations" (.array (items.map Variation.normalize))
  | none | some .null => r.insert "variations" (.array [])
  | some _ => r

/-- Brings a record into canonical form; a missing url or capture time is filled in. -/
def normalize (now url : String) (r : Record) : Record :=
  ((((((r.setDefault "url" (.string url)).setDefault "captured_at"
    (.string now)).normalizeCurrency).normalizePrice).normalizeImages).normalizeVariations)

end Record

end ListingCrawl
