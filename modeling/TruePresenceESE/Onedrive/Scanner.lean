import TruePresenceESE.Lib.Paging
import TruePresenceESE.Lib.PyText

/-! # Scanning a drive

The scanner lists the image files of a drive folder by folder. A folder is asked for by the
text of its path, and the text of the root is an ordinary path as well: a folder that
stands there is taken for the root.
-/

namespace TruePresenceESE.Onedrive

open Paging

/-! ## Items -/

structure ItemFacts where
  id : String
  name : String
  size : Option ℕ := none
  lastModifiedDateTime : Option String := none
  downloadUrl : Option String := none

/-- An item as it is served, with or without a folder facet. -/
structure DriveItem where
  facts : ItemFacts
  isFolder : Bool

structure ItemInfo where
  id : String
  name : String
  path : String
  size : ℕ
  lastModified : String
  folder : String
  downloadUrl : Option String
  fileType : String
  deriving DecidableEq

def imageExtensions : List String :=
  [".png", ".jpg", ".jpeg", ".gif", ".bmp", ".webp", ".tiff", ".tif"]

/-- `filename.rsplit(".", 1)[-1].lower() if "." in filename else ""` -/
def fileType (filename : String) : String :=
  if '.' ∈ filename.toList then
    PyText.lower (String.ofList (filename.toList.rtakeWhile (· ≠ '.')))
  else ""

def isImageFile (filename : String) : Bool := imageExtensions.contains ("." ++ fileType filename)

/-- `name.startswith(".")` -/
def isDotName (name : String) : Bool := name.toList.head? == some '.'

/-! ## The scanner -/

def graphApiEndpoint : String := "https://graph.microsoft.com/v1.0"

def childPath (folderPath name : String) : String :=
  if folderPath ≠ "/drive/root" then folderPath ++ "/" ++ name else "/" ++ name

def childrenUrl (folderPath : String) : String :=
  if folderPath ≠ "/drive/root" then
    graphApiEndpoint ++ "/me/drive/root:" ++ folderPath ++ ":/children"
  else graphApiEndpoint ++ "/me/drive/root/children"

def itemInfo (folderPath : String) (item : ItemFacts) : ItemInfo where
  id := item.id
  name := item.name
  path := childPath folderPath item.name
  size := item.size.getD 0
  lastModified := item.lastModifiedDateTime.getD ""
  folder := folderPath
  downloadUrl := item.downloadUrl
  fileType := fileType item.name

inductive StackError where
  | recursionError

/-- One turn of the loop over a page. A nested scan that finds no room on the stack ends the
scan it is part of, with what was found so far. -/
def addItem (scan : String → Option (Except StackError (List ItemInfo))) (folderPath : String)
    (items : List ItemInfo) (item : DriveItem) : Option (List ItemInfo × Bool) :=
  if item.isFolder && !isDotName item.facts.name then
    (scan (childPath folderPath item.facts.name)).map fun
      | .ok subItems => (items ++ subItems, false)
      | .error _ => (items, true)
  else if isImageFile item.facts.name then
    some (items ++ [itemInfo folderPath item.facts], false)
  else some (items, false)

section
variable {ε : Type} (graphGet : String → Except ε (Page String DriveItem)) (pages : ℕ)

/-- The scan of a folder, with the room there is on the stack; `pages` are read of each
folder at most. A link that is missing or empty is none. -/
def scanOnedrive : ℕ → String → Option (Except StackError (List ItemInfo))
  | 0, _ => some (.error .recursionError)
  | frames + 1, folderPath =>
      (readPages graphGet (addItem (scanOnedrive frames) folderPath) pages
        (some (childrenUrl folderPath)) []).map .ok

end

/-! ## Drives -/

/-- What a folder holds, in the order it is served. -/
inductive Listing where
  | nil
  | file (facts : ItemFacts) (rest : Listing)
  | folder (facts : ItemFacts) (children rest : Listing)

inductive FolderAt where
  | root
  | sub (path : String)

namespace FolderAt

def text : FolderAt → String
  | root => "/drive/root"
  | sub path => path

def child : FolderAt → String → FolderAt
  | root, name => sub ("/" ++ name)
  | sub path, name => sub (path ++ "/" ++ name)

/-- Where the interface serves the items of a folder. -/
def url : FolderAt → String
  | root => graphApiEndpoint ++ "/me/drive/root/children"
  | sub path => graphApiEndpoint ++ "/me/drive/root:" ++ path ++ ":/children"

def infoOf (here : FolderAt) (item : ItemFacts) : ItemInfo where
  id := item.id
  name := item.name
  path := (here.child item.name).text
  size := item.size.getD 0
  lastModified := item.lastModifiedDateTime.getD ""
  folder := here.text
  downloadUrl := item.downloadUrl
  fileType := fileType item.name

/-- Only the root is known by the path of the root. -/
def Plain : FolderAt → Prop
  | root => True
  | sub path => path ≠ "/drive/root"

theorem childrenUrl_text {here : FolderAt} (h : here.Plain) : childrenUrl here.text = here.url := by
  cases here with
  | root => exact if_neg fun hne => hne rfl
  | sub path => exact if_pos h

theorem childPath_text {here : FolderAt} (h : here.Plain) (name : String) :
    childPath here.text name = (here.child name).text := by
  cases here with
  | root => exact if_neg fun hne => hne rfl
  | sub path => exact if_pos h

theorem itemInfo_text {here : FolderAt} (h : here.Plain) (item : ItemFacts) :
    itemInfo here.text item = here.infoOf item := by
  rw [itemInfo, infoOf, childPath_text h]

theorem child_plain {here : FolderAt} {name : String}
    (h : (here.child name).text ≠ "/drive/root") : (here.child name).Plain := by
  cases here with
  | root => exact h
  | sub path => exact h

end FolderAt

namespace Listing

def items : Listing → List DriveItem
  | nil => []
  | file facts rest => ⟨facts, false⟩ :: rest.items
  | folder facts _ rest => ⟨facts, true⟩ :: rest.items

/-- The folders that stand inside one another. -/
def height : Listing → ℕ
  | nil => 0
  | file _ rest => rest.height
  | folder _ children rest => max (children.height + 1) rest.height

def ids : Listing → List String
  | nil => []
  | file facts rest => facts.id :: rest.ids
  | folder facts children rest => facts.id :: (children.ids ++ rest.ids)

section
variable {ε : Type} (graphGet : String → Except ε (Page String DriveItem)) (pages : ℕ)

/-- Every folder is served without errors, in as many pages as the scanner may read. -/
def ServedBelow : FolderAt → Listing → Prop
  | _, nil => True
  | here, file _ rest => rest.ServedBelow here
  | here, folder facts children rest =>
      (∃ n ≤ pages, Serves graphGet n (here.child facts.name).url children.items) ∧
        children.ServedBelow (here.child facts.name) ∧ rest.ServedBelow here

def Served (drive : Listing) : Prop :=
  (∃ n ≤ pages, Serves graphGet n FolderAt.root.url drive.items) ∧
    drive.ServedBelow graphGet pages .root

end

/-! ## What is found -/

/-- The image files that have no dot-folder above them. -/
def images : FolderAt → Listing → List ItemInfo
  | _, nil => []
  | here, file facts rest =>
      if isImageFile facts.name then here.infoOf facts :: rest.images here else rest.images here
  | here, folder facts children rest =>
      if isDotName facts.name then rest.images here
      else children.images (here.child facts.name) ++ rest.images here

/-- The dot-folders that have none above them and the name of an image. -/
def imageDotFolders : FolderAt → Listing → List ItemInfo
  | _, nil => []
  | here, file _ rest => rest.imageDotFolders here
  | here, folder facts children rest =>
      if isDotName facts.name then
        if isImageFile facts.name then here.infoOf facts :: rest.imageDotFolders here
        else rest.imageDotFolders here
      else children.imageDotFolders (here.child facts.name) ++ rest.imageDotFolders here

/-- A scan that has room for so many more folders, one inside the other, and whether it was
ended; `atRoot` is what it finds in a folder that it takes for the root. -/
def found (atRoot : ℕ → List ItemInfo) : ℕ → FolderAt → Listing → List ItemInfo × Bool
  | _, _, nil => ([], false)
  | n, here, file facts rest =>
      let later := rest.found atRoot n here
      if isImageFile facts.name then (here.infoOf facts :: later.1, later.2) else later
  | n, here, folder facts children rest =>
      let later := rest.found atRoot n here
      if isDotName facts.name then
        if isImageFile facts.name then (here.infoOf facts :: later.1, later.2) else later
      else if n = 0 then ([], true)
      else if (here.child facts.name).text = "/drive/root" then
        (atRoot (n - 1) ++ later.1, later.2)
      else ((children.found atRoot (n - 1) (here.child facts.name)).1 ++ later.1, later.2)

end Listing

/-! ## The scan of a drive -/

section
variable {ε : Type} {graphGet : String → Except ε (Page String DriveItem)} {pages : ℕ}

/-- What the scan of the root comes to. -/
def atRoot (graphGet : String → Except ε (Page String DriveItem)) (pages n : ℕ) : List ItemInfo :=
  match scanOnedrive graphGet pages (n + 1) "/drive/root" with
  | some (.ok items) => items
  | _ => []

/-- The loop over the items of a folder, where nested scans find what they should. -/
theorem takeValues_addItem {n : ℕ} {here : FolderAt} {listing : Listing} (acc : List ItemInfo)
    (hplain : here.Plain)
    (hserved : listing.ServedBelow graphGet pages here)
    (hroot : ∀ m, n = m + 1 → scanOnedrive graphGet pages n "/drive/root" =
      some (.ok (atRoot graphGet pages m)))
    (hsub : ∀ m, n = m + 1 → ∀ (there : FolderAt) (children : Listing), there.Plain →
      (∃ k ≤ pages, Serves graphGet k there.url children.items) →
        children.ServedBelow graphGet pages there →
          scanOnedrive graphGet pages n there.text =
            some (.ok (children.found (atRoot graphGet pages) m there).1)) :
    takeValues (addItem (scanOnedrive graphGet pages n) here.text) acc listing.items =
      some (acc ++ (listing.found (atRoot graphGet pages) n here).1,
        (listing.found (atRoot graphGet pages) n here).2) := by
  induction listing generalizing acc with
  | nil => simp [Listing.items, takeValues, Listing.found]
  | file facts rest ih =>
      rw [Listing.items, takeValues, addItem, Listing.found]
      by_cases himage : isImageFile facts.name
      · simp only [Bool.false_and, Bool.false_eq_true, if_false, if_pos himage,
          FolderAt.itemInfo_text hplain]
        rw [ih _ hserved, List.append_assoc, List.singleton_append]
      · simp only [Bool.false_and, Bool.false_eq_true, if_false, if_neg himage]
        exact ih _ hserved
  | folder facts children rest _ ih =>
      obtain ⟨hpages, hbelow, hrest⟩ := hserved
      rw [Listing.items, takeValues, addItem, Listing.found]
      by_cases hdot : isDotName facts.name
      · by_cases himage : isImageFile facts.name
        · simp only [hdot, Bool.not_true, Bool.and_false, Bool.false_eq_true, if_false, if_true,
            if_pos himage, FolderAt.itemInfo_text hplain]
          rw [ih _ hrest, List.append_assoc, List.singleton_append]
        · simp only [hdot, Bool.not_true, Bool.and_false, Bool.false_eq_true, if_false, if_true,
            if_neg himage]
          exact ih _ hrest
      · simp only [hdot, Bool.not_false, Bool.and_true, if_true, Bool.false_eq_true, if_false,
          FolderAt.childPath_text hplain]
        cases n with
        | zero => simp [scanOnedrive]
        | succ m =>
            by_cases hcollides : (here.child facts.name).text = "/drive/root"
            · rw [hcollides, hroot m rfl]
              simp only [Option.map_some, if_true, Nat.succ_ne_zero, if_false, Nat.add_sub_cancel]
              rw [ih _ hrest, List.append_assoc]
            · rw [hsub m rfl _ children (FolderAt.child_plain hcollides) hpages hbelow]
              simp only [Option.map_some, if_neg hcollides, Nat.succ_ne_zero, if_false,
                Nat.add_sub_cancel]
              rw [ih _ hrest, List.append_assoc]

/-- A drive that is served is scanned to an end, with any room on the stack. -/
theorem scanOnedrive_served {drive : Listing} (hdrive : drive.Served graphGet pages) (n : ℕ)
    (here : FolderAt) {listing : Listing} (hplain : here.Plain)
    (hpages : ∃ k ≤ pages, Serves graphGet k here.url listing.items)
    (hserved : listing.ServedBelow graphGet pages here) :
    scanOnedrive graphGet pages (n + 1) here.text =
      some (.ok (listing.found (atRoot graphGet pages) n here).1) := by
  induction n using Nat.strong_induction_on generalizing here listing with
  | _ n ih =>
    obtain ⟨k, hk, hserves⟩ := hpages
    have hroot : ∀ m, n = m + 1 → scanOnedrive graphGet pages n "/drive/root" =
        some (.ok (atRoot graphGet pages m)) := by
      rintro m rfl
      have hscan := ih m (Nat.lt_succ_self m) .root trivial hdrive.1 hdrive.2
      have hvalue : atRoot graphGet pages m =
          (drive.found (atRoot graphGet pages) m .root).1 := by
        rw [atRoot, show "/drive/root" = FolderAt.root.text from rfl, hscan]
      rw [hvalue]
      exact hscan
    have htake := takeValues_addItem [] hplain hserved hroot (by
      rintro m rfl there children hthere hchildren hbelow
      exact ih m (Nat.lt_succ_self m) there hthere hchildren hbelow)
    rw [scanOnedrive, FolderAt.childrenUrl_text hplain, readPages_of_serves hserves hk htake]
    rfl

/-- What the scan of the root finds, given what it finds where it comes back to the root. -/
theorem atRoot_eq {drive : Listing} (hdrive : drive.Served graphGet pages) (n : ℕ) :
    atRoot graphGet pages n = (drive.found (atRoot graphGet pages) n .root).1 := by
  have hscan := scanOnedrive_served hdrive n .root trivial hdrive.1 hdrive.2
  rw [atRoot, show "/drive/root" = FolderAt.root.text from rfl, hscan]

theorem scanOnedrive_root {drive : Listing} (hdrive : drive.Served graphGet pages) (n : ℕ) :
    scanOnedrive graphGet pages (n + 1) "/drive/root" = some (.ok (atRoot graphGet pages n)) := by
  rw [atRoot_eq hdrive]
  exact scanOnedrive_served hdrive n .root trivial hdrive.1 hdrive.2

end

end TruePresenceESE.Onedrive
