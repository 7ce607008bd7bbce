import Mathlib.Data.List.Forall2
import GirDoc.Gir.OnlineIndex
import GirDoc.Proofs.Attempt
import GirDoc.Proofs.Text.Split
import GirDoc.Proofs.Text.Words
import GirDoc.Proofs.Value.Dictionary

/-!
# Names in the indexes of installed documentation

Documentation gives every symbol an anchor in one of its pages, and there are two formats of indexes. A keyword tells
what kind of symbol its anchor belongs to, and is read as the unique name of the symbol (`keywordName_eq`). A line with
an anchor does not tell, and is read as if the symbol were known by a C name (`Indexed.title_eq_iff`). So both indexes
lead to functions, macros and structures, and only the index of keywords leads to signals and properties
(`indexes_agree_iff`).
-/

namespace GirDoc.Gir.OnlineIndex

open Value

/-! ## Symbols and their anchors -/

/-- The characters that names have: none that separates the parts of an index. -/
def isNameChar (c : Char) : Bool :=
  c ≠ ':' && c ≠ ' ' && c ≠ '\n' && c ≠ '\x22' && !isCallMark c

/-- A name in C, where there are no dashes. -/
structure CName where
  text : String
  isName : text.toList.all isNameChar = true
  noDash : '-' ∉ text.toList

/-- A name of a signal or property, which does not start with a dash. -/
structure MemberName where
  text : String
  isName : text.toList.all isNameChar = true
  noDash : text.toList.head? ≠ some '-'

/-- The kinds of symbols that are known by a C name. -/
inductive PlainKind where
  | function
  | definition
  | struct

/-- The kinds of symbols that belong to a type. -/
inductive OwnedKind where
  | signal
  | property

/-- What keywords call a kind. -/
def PlainKind.word : PlainKind → String
  | function => "function"
  | definition => "macro"
  | struct => "struct"

@[inherit_doc PlainKind.word]
def OwnedKind.word : OwnedKind → String
  | signal => "signal"
  | property => "property"

/-- What stands between the type and the name in a unique name. -/
def OwnedKind.mark : OwnedKind → String
  | signal => "::"
  | property => ":"

/-- What stands between the type and the name in an anchor. -/
def OwnedKind.dashes : OwnedKind → String
  | signal => "-"
  | property => "--"

/-- A symbol of a library that has an index. -/
inductive Indexed where
  | plain (kind : PlainKind) (name : CName)
  | owned (kind : OwnedKind) (owner : CName) (name : MemberName)

namespace Indexed

/-- Whether the symbol is known by a C name. -/
def isPlain : Indexed → Bool
  | plain .. => true
  | owned .. => false

/-- The name by which the symbol is known in all documentation. -/
def uniqueName : Indexed → String
  | plain _ name => name.text
  | owned kind owner name => memberName (some owner.text) kind.mark name.text

/-- Whether a name has capitals only, besides digits and underscores. -/
def isCapital (name : String) : Bool :=
  name.toList.all fun c => c.isUpper || c.isDigit || c = '_'

/-- The anchor of the symbol. That of a name in capitals is marked, since anchors may not differ in case alone. -/
def anchor : Indexed → String
  | plain _ name => Text.replaceChar '_' '-' name.text ++ if isCapital name.text then ":CAPS" else ""
  | owned kind owner name => owner.text ++ kind.dashes ++ name.text

/-- What the anchor of the symbol is read as. -/
def title (x : Indexed) : String := anchorTitle x.anchor

/-- What a keyword calls the kind of the symbol. -/
def word : Indexed → String
  | plain kind _ => kind.word
  | owned kind .. => kind.word

/-- Whether a keyword shows the symbol as a text: what is called may have parentheses after its name, and a structure
may be introduced as one. Of signals and properties any text may be shown. -/
def IsShownAs (shown : String) : Indexed → Prop
  | plain .struct name => shown = name.text ∨ shown = "struct " ++ name.text
  | plain _ name => ∃ marks, (∀ c ∈ marks, isCallMark c) ∧ shown.toList = name.text.toList ++ marks
  | owned .. => True

end Indexed

/-- A symbol and the page that documents it. -/
structure Entry where
  symbol : Indexed
  page : String
  noHash : '#' ∉ page.toList
  noQuote : '\x22' ∉ page.toList

/-- The place of the symbol in its page. -/
def Entry.link (e : Entry) : String := e.page ++ "#" ++ e.symbol.anchor

/-! ## Names from keywords -/

theorem notMem_name {cs : List Char} (h : cs.all isNameChar = true) {c : Char} (hc : isNameChar c = false) :
    c ∉ cs := by
  intro hmem
  rw [List.all_eq_true.mp h c hmem] at hc
  cases hc

theorem afterWord_eq {name : String} (h : ' ' ∉ name.toList) : afterWord name = name := by
  rw [afterWord, Text.cut, Text.cutChars_eq_none h]
  rfl

theorem afterWord_struct (name : String) : afterWord ("struct " ++ name) = name := by
  have hword : ("struct " ++ name).toList = "struct".toList ++ ' ' :: name.toList := by simp
  rw [afterWord, Text.cut_eq_some hword (by decide)]

/-- The name after the dashes is what does not start with one. -/
theorem dropWhile_dashes (kind : OwnedKind) (name : MemberName) :
    ∃ rest, kind.dashes.toList ++ name.text.toList = '-' :: rest ∧
      Text.trimStartOf (· = '-') (String.ofList rest) = name.text := by
  have hname : name.text.toList.dropWhile (· = '-') = name.text.toList := by
    have hhead := name.noDash
    cases hcs : name.text.toList with
    | nil => rfl
    | cons c cs =>
      rw [hcs] at hhead
      exact List.dropWhile_cons_of_neg (by simpa using hhead)
  cases kind with
  | signal =>
    refine ⟨name.text.toList, by simp [OwnedKind.dashes], ?_⟩
    rw [Text.trimStartOf, String.toList_ofList, hname, String.ofList_toList]
  | property =>
    refine ⟨'-' :: name.text.toList, by simp [OwnedKind.dashes], ?_⟩
    rw [Text.trimStartOf, String.toList_ofList, List.dropWhile_cons_of_pos (by simp), hname, String.ofList_toList]

theorem anchorName_eq {page : String} (hpage : '#' ∉ page.toList) (kind : OwnedKind) (owner : CName)
    (name : MemberName) (mark : String) :
    anchorName mark (page ++ "#" ++ (Indexed.owned kind owner name).anchor) =
      .ok (owner.text ++ mark ++ name.text) := by
  obtain ⟨rest, hrest, hname⟩ := dropWhile_dashes kind name
  generalize hanchor : (Indexed.owned kind owner name).anchor = anchor
  have hlink : (page ++ "#" ++ anchor).toList = page.toList ++ '#' :: anchor.toList := by simp
  have hparts : anchor.toList = owner.text.toList ++ '-' :: (String.ofList rest).toList := by
    rw [← hanchor, Indexed.anchor, String.toList_append, String.toList_append, List.append_assoc, hrest,
      String.toList_ofList]
  rw [anchorName, Text.cut_eq_some hlink hpage]
  dsimp only
  rw [Text.cut_eq_some hparts owner.noDash]
  dsimp only
  rw [hname]

/-- A keyword is read as the unique name of its symbol. -/
theorem keywordName_eq (e : Entry) {shown : String} (h : e.symbol.IsShownAs shown) :
    keywordName e.symbol.word shown e.link = .ok e.symbol.uniqueName := by
  obtain ⟨symbol, page, hpage, hquote⟩ := e
  cases symbol with
  | plain kind name =>
    have hcall : ∀ c ∈ name.text.toList, isCallMark c = false := fun c hc => by
      have hchar := List.all_eq_true.mp name.isName c hc
      rw [isNameChar, Bool.and_eq_true, Bool.not_eq_true'] at hchar
      exact hchar.2
    cases kind with
    | function =>
      obtain ⟨marks, hmarks, hshown⟩ := h
      exact congrArg Except.ok (Text.trimEndOf_eq hshown hmarks hcall)
    | definition =>
      obtain ⟨marks, hmarks, hshown⟩ := h
      exact congrArg Except.ok (Text.trimEndOf_eq hshown hmarks hcall)
    | struct =>
      show Except.ok (afterWord shown) = _
      rcases h with rfl | rfl
      · rw [afterWord_eq (notMem_name name.isName (by decide))]
        rfl
      · rw [afterWord_struct]
        rfl
  | owned kind owner name =>
    cases kind with
    | signal => exact anchorName_eq hpage .signal owner name "::"
    | property => exact anchorName_eq hpage .property owner name ":"

/-! ## Names from anchors -/

/-- Underscores written as dashes are read back where there were no dashes. -/
theorem replaceChar_replaceChar {s : String} (h : '-' ∉ s.toList) :
    Text.replaceChar '-' '_' (Text.replaceChar '_' '-' s) = s := by
  have hback : ∀ c ∈ s.toList,
      (if (if c = '_' then '-' else c) = '-' then '_' else if c = '_' then '-' else c) = c := by
    intro c hc
    have hdash : c ≠ '-' := fun he => h (he ▸ hc)
    by_cases hc : c = '_' <;> simp [hc, hdash]
  rw [Text.replaceChar, Text.replaceChar, String.toList_ofList, List.map_map]
  refine (congrArg String.ofList ?_).trans s.ofList_toList
  exact (List.map_congr_left hback).trans (List.map_id' _)

theorem anchorTitle_of_notMem {s : String} (h : ':' ∉ s.toList) : anchorTitle s = Text.replaceChar '-' '_' s := by
  have hcolon : ':' ∉ (Text.replaceChar '-' '_' s).toList := Text.notMem_replaceChar (by decide) h
  exact if_neg fun hends => hcolon (((Text.endsWith_iff _ _).mp hends).subset (by simp))

/-- The mark of capitals is taken off. -/
theorem anchorTitle_capital (s : String) : anchorTitle (s ++ ":CAPS") = Text.replaceChar '-' '_' s := by
  have hmark : Text.replaceChar '-' '_' ":CAPS" = ":CAPS" := by decide
  have hlength : ":CAPS".length = 5 := by decide
  have hends : (Text.replaceChar '-' '_' s ++ ":CAPS").endsWith ":CAPS" = true := by simp [Text.endsWith_iff]
  simp only [anchorTitle, Text.replaceChar_append, hmark, hends, if_true]
  rw [String.length_append, hlength, Nat.add_sub_cancel, ← String.length_toList, String.toList_append,
    List.take_left, String.ofList_toList]

namespace Indexed

theorem notMem_anchor_owned {c : Char} (hc : isNameChar c = false) (hdash : c ≠ '-') (kind : OwnedKind)
    (owner : CName) (name : MemberName) : c ∉ (owned kind owner name).anchor.toList := by
  have howner := notMem_name owner.isName hc
  have hname := notMem_name name.isName hc
  cases kind <;> simp [anchor, OwnedKind.dashes, howner, hname, hdash]

theorem quote_notMem_anchor (x : Indexed) : '\x22' ∉ x.anchor.toList := by
  cases x with
  | plain kind name =>
    have hname : '\x22' ∉ (Text.replaceChar '_' '-' name.text).toList :=
      Text.notMem_replaceChar (by decide) (notMem_name name.isName (by decide))
    rw [anchor, String.toList_append, List.mem_append, not_or]
    exact ⟨hname, by split <;> decide⟩
  | owned kind owner name => exact notMem_anchor_owned (by decide) (by decide) kind owner name

theorem mem_uniqueName_owned (kind : OwnedKind) (owner : CName) (name : MemberName) :
    ':' ∈ (owned kind owner name).uniqueName.toList := by
  cases kind <;> simp [uniqueName, memberName, OwnedKind.mark]

theorem title_plain (kind : PlainKind) (name : CName) : (plain kind name).title = name.text := by
  have hcolon : ':' ∉ (Text.replaceChar '_' '-' name.text).toList :=
    Text.notMem_replaceChar (by decide) (notMem_name name.isName (by decide))
  rw [title, anchor]
  split
  · rw [anchorTitle_capital, replaceChar_replaceChar name.noDash]
  · rw [String.append_empty, anchorTitle_of_notMem hcolon, replaceChar_replaceChar name.noDash]

/-- What an anchor is read as has no colon, as C names have none. -/
theorem colon_notMem_title (x : Indexed) : ':' ∉ x.title.toList := by
  cases x with
  | plain kind name =>
    rw [title_plain]
    exact notMem_name name.isName (by decide)
  | owned kind owner name =>
    have hanchor : ':' ∉ (owned kind owner name).anchor.toList :=
      notMem_anchor_owned (by decide) (by decide) kind owner name
    rw [title, anchorTitle_of_notMem hanchor]
    exact Text.notMem_replaceChar (by decide) hanchor

/-- An anchor is read as the unique name of its symbol exactly if that is a C name. -/
theorem title_eq_iff (x : Indexed) : x.title = x.uniqueName ↔ x.isPlain = true := by
  cases x with
  | plain kind name => exact iff_of_true (title_plain kind name) rfl
  | owned kind owner name =>
    refine iff_of_false (fun heq => colon_notMem_title (owned kind owner name) ?_) Bool.false_ne_true
    rw [heq]
    exact mem_uniqueName_owned kind owner name

end Indexed

/-! ## The two indexes -/

/-- What an index says of a symbol: a name for it, and where it is documented online. -/
def noted (base : String) (name : Indexed → String) (e : Entry) : String × String :=
  (name e.symbol, base ++ "/" ++ e.link)

/-- A keyword of a symbol. -/
structure IsKeyword (n : Xml.Node) (e : Entry) : Prop where
  type : n.attribute? "type" = some e.symbol.word
  link : n.attribute? "link" = some e.link
  shown : ∃ shown, n.attribute? "name" = some shown ∧ e.symbol.IsShownAs shown

/-- The keywords of an index. -/
def keywordsOf (root : Xml.Element) : List Xml.Node :=
  (Xml.Node.descendants ⟨root, []⟩).filter fun n => n.tag = Xml.qualified bookSpace "keyword"

/-- The directory has an index of keywords, one for each symbol. -/
structure HasKeywords (files : FileTree) (dir base : String) (entries : List Entry) : Prop where
  exists_path : files.pathExists (Path.join dir (Path.base dir ++ ".devhelp2")) = true
  exists_root : ∃ root, readDocument files (Path.join dir (Path.base dir ++ ".devhelp2")) = .ok root ∧
    onlineBase? root = some (base ++ "/") ∧ List.Forall₂ IsKeyword (keywordsOf root) entries

/-- A text between quotes. -/
def quoted (s : String) : String := String.ofList ('\x22' :: s.toList ++ ['\x22'])

/-- The line of an index that tells where the pages are online. -/
def onlineLine (base : String) : String := "<ONLINE href=" ++ quoted base ++ ">\n"

/-- The line of an index for a symbol; pages are in a directory. -/
def anchorLine (sub : String) (e : Entry) : String :=
  "<ANCHOR id=" ++ quoted e.symbol.anchor ++ " href=" ++ quoted (sub ++ "/" ++ e.link) ++ ">\n"

/-- The directory has an index of anchors, with a line for each symbol. -/
structure HasAnchors (files : FileTree) (dir base sub : String) (entries : List Entry) : Prop where
  base_ne : base ≠ ""
  base_noQuote : '\x22' ∉ base.toList
  sub_noSlash : '/' ∉ sub.toList
  sub_noQuote : '\x22' ∉ sub.toList
  lines : files.readLines (Path.join dir "index.sgml") =
    .ok ⟨onlineLine base :: entries.map (anchorLine sub), true⟩

/-! ## Reading an index -/

section

variable {base sub : String}

theorem start_addOnline (name ref : String) (s : Session) :
    (addOnline name ref).start s = (.ok (), { s with onlineLinks := put s.onlineLinks name ref }) := rfl

theorem start_readKeyword {n : Xml.Node} {e : Entry} (h : IsKeyword n e) (s : Session) :
    (readKeyword (base ++ "/") n).start s =
      (.ok (), { s with onlineLinks := put s.onlineLinks e.symbol.uniqueName (base ++ "/" ++ e.link) }) := by
  obtain ⟨shown, hname, hshown⟩ := h.shown
  rw [readKeyword, hname, h.type, h.link, Attempt.start_bind_ok (Attempt.start_need_some ..),
    Attempt.start_bind_ok (Attempt.start_need_some ..), Attempt.start_bind_ok (Attempt.start_need_some ..),
    keywordName_eq e hshown, Attempt.start_bind_ok (Attempt.start_ofExcept ..)]
  exact start_addOnline ..

theorem start_forM_readKeyword {nodes : List Xml.Node} {entries : List Entry}
    (h : List.Forall₂ IsKeyword nodes entries) (s : Session) :
    (nodes.forM (readKeyword (base ++ "/"))).start s =
      (.ok (), { s with onlineLinks := putAll s.onlineLinks (entries.map (noted base Indexed.uniqueName)) }) := by
  induction h generalizing s with
  | nil => rfl
  | cons hkeyword _ ih =>
    rw [Attempt.start_forM_cons_ok (start_readKeyword hkeyword s), ih]
    rfl

/-- Reading the index of keywords notes where each symbol is documented, by its unique name. -/
theorem HasKeywords.start_readKeywords {s : Session} {dir : String} {entries : List Entry}
    (h : HasKeywords s.environment.files dir base entries) :
    ∃ log, (readKeywords dir).start s =
      (.ok true,
        { s with onlineLinks := putAll s.onlineLinks (entries.map (noted base Indexed.uniqueName)), log }) := by
  obtain ⟨root, hroot, hbase, hkeywords⟩ := h.exists_root
  refine ⟨s.log ++ [.debug ("Gathered " ++ toString (keywordsOf root).length ++ " links from devhelp index " ++
    Path.join dir (Path.base dir ++ ".devhelp2"))], ?_⟩
  have hgiven : Session.given.start s = (.ok s.environment, s) := rfl
  rw [readKeywords, Attempt.start_bind_ok hgiven]
  dsimp only
  rw [h.exists_path, hroot, Bool.not_true, if_neg Bool.false_ne_true,
    Attempt.start_bind_ok (Attempt.start_ofExcept ..), hbase]
  exact (Attempt.start_bind_ok (start_forM_readKeyword hkeywords s)).trans rfl

theorem Entry.quote_notMem_link (e : Entry) : '\x22' ∉ e.link.toList := by
  simp [Entry.link, e.noQuote, e.symbol.quote_notMem_anchor]

theorem splitAll_anchorLine (hsub : '\x22' ∉ sub.toList) (e : Entry) :
    Text.splitAll '\x22' (anchorLine sub e) =
      ["<ANCHOR id=", e.symbol.anchor, " href=", sub ++ "/" ++ e.link, ">\n"] := by
  have hhref : '\x22' ∉ (sub ++ "/" ++ e.link).toList := by simp [hsub, e.quote_notMem_link]
  have hline : (anchorLine sub e).toList = "<ANCHOR id=".toList ++ '\x22' :: (e.symbol.anchor.toList ++
      '\x22' :: (" href=".toList ++ '\x22' :: ((sub ++ "/" ++ e.link).toList ++ '\x22' :: ">\n".toList))) := by
    unfold anchorLine quoted
    simp
  rw [Text.splitAll, hline, Text.splitChars_append_cons (by decide),
    Text.splitChars_append_cons e.symbol.quote_notMem_anchor, Text.splitChars_append_cons (by decide),
    Text.splitChars_append_cons hhref, Text.splitChars_of_notMem (by decide)]
  simp only [List.map_cons, List.map_nil, String.ofList_toList]

theorem splitAll_onlineLine (hbase : '\x22' ∉ base.toList) :
    Text.splitAll '\x22' (onlineLine base) = ["<ONLINE href=", base, ">\n"] := by
  have hline : (onlineLine base).toList =
      "<ONLINE href=".toList ++ '\x22' :: (base.toList ++ '\x22' :: ">\n".toList) := by
    unfold onlineLine quoted
    simp
  rw [Text.splitAll, hline, Text.splitChars_append_cons (by decide), Text.splitChars_append_cons hbase,
    Text.splitChars_of_notMem (by decide)]
  simp only [List.map_cons, List.map_nil, String.ofList_toList]

theorem anchorFile_eq (hsub : '/' ∉ sub.toList) (file : String) : anchorFile (sub ++ "/" ++ file) = file := by
  have hpath : (sub ++ "/" ++ file).toList = sub.toList ++ '/' :: file.toList := by simp
  rw [anchorFile, Text.cut_eq_some hpath hsub]

theorem start_quotedPart {line part : String} {place : Nat} (h : (Text.splitAll '\x22' line)[place]? = some part)
    (s : Session) : (quotedPart line place).start s = (.ok part, s) := by
  rw [quotedPart, h]
  rfl

/-- A line with an anchor notes where the symbol is documented, by what its anchor is read as. -/
theorem start_readAnchors_cons (hbase : base ≠ "") (hsub : '/' ∉ sub.toList) (hquote : '\x22' ∉ sub.toList)
    (e : Entry) (lines : List String) (s : Session) :
    (readAnchors true base (anchorLine sub e :: lines)).start s =
      (readAnchors true base lines >>= fun count => pure (count + 1)).start
        { s with onlineLinks := put s.onlineLinks e.symbol.title (base ++ "/" ++ e.link) } := by
  have hid : (quotedPart (anchorLine sub e) 1).start s = (.ok e.symbol.anchor, s) :=
    start_quotedPart (by rw [splitAll_anchorLine hquote]; rfl) s
  have hhref : (quotedPart (anchorLine sub e) 3).start s = (.ok (sub ++ "/" ++ e.link), s) :=
    start_quotedPart (by rw [splitAll_anchorLine hquote]; rfl) s
  have honline : (anchorLine sub e).startsWith "<ONLINE" = false := by
    unfold anchorLine
    simp
  have hanchor : (anchorLine sub e).startsWith "<ANCHOR" = true := by
    unfold anchorLine
    simp
  rw [readAnchors, honline, if_neg Bool.false_ne_true, String.isEmpty_eq_false_iff.mpr hbase,
    if_neg Bool.false_ne_true, hanchor, if_pos rfl, Attempt.start_bind_ok hhref, Attempt.start_bind_ok hid,
    anchorFile_eq hsub, Attempt.start_bind_ok (start_addOnline ..), Indexed.title]

theorem start_readAnchors (hbase : base ≠ "") (hsub : '/' ∉ sub.toList) (hquote : '\x22' ∉ sub.toList)
    (entries : List Entry) (s : Session) :
    (readAnchors true base (entries.map (anchorLine sub))).start s =
      (.ok entries.length,
        { s with onlineLinks := putAll s.onlineLinks (entries.map (noted base Indexed.title)) }) := by
  induction entries generalizing s with
  | nil => rfl
  | cons e rest ih =>
    rw [List.map_cons, start_readAnchors_cons hbase hsub hquote, Attempt.start_bind_ok (ih _)]
    rfl

/-- Reading the index of anchors notes where each symbol is documented, by what its anchor is read as. -/
theorem HasAnchors.start_readAnchorIndex {s : Session} {dir : String} {entries : List Entry}
    (h : HasAnchors s.environment.files dir base sub entries) :
    ∃ log, (readAnchorIndex dir).start s =
      (.ok (), { s with onlineLinks := putAll s.onlineLinks (entries.map (noted base Indexed.title)), log }) := by
  have hgiven : Session.given.start s = (.ok s.environment, s) := rfl
  have hplace : (quotedPart (onlineLine base) 1).start s = (.ok base, s) :=
    start_quotedPart (by rw [splitAll_onlineLine h.base_noQuote]; rfl) s
  have honline : (onlineLine base).startsWith "<ONLINE" = true := by
    unfold onlineLine
    simp
  have hread : (readAnchors true "" (onlineLine base :: entries.map (anchorLine sub))).start s =
      (.ok entries.length,
        { s with onlineLinks := putAll s.onlineLinks (entries.map (noted base Indexed.title)) }) := by
    rw [readAnchors, honline, if_pos rfl, Attempt.start_bind_ok hplace]
    exact start_readAnchors h.base_ne h.sub_noSlash h.sub_noQuote entries s
  rw [readAnchorIndex, Attempt.start_bind_ok hgiven, h.lines]
  dsimp only
  rw [Attempt.start_bind_ok hread]
  -- an index without symbols is not reported
  split
  · exact ⟨_, rfl⟩
  · exact ⟨s.log, rfl⟩

end

/-! ## Symbols found -/

/-- A name that only installed documentation can tell of: a language is chosen, and the name is neither that of a
fundamental type nor that of a symbol of this project. -/
structure IsElsewhere (s : Session) (name : String) : Prop where
  hasLanguage : s.language.isSome
  notFundamental : (fundamentalsOf s.voice).lookup name = none
  notOurs : s.environment.pages.lookup name ≠ some pageOwner

/-- A name is found in installed documentation, when it is searched and when a link is to lead to it. -/
def IsFound (s : Session) (name : String) : Prop :=
  ∃ ref, onlineLink? s name = some { ref := some ref, title := some name, id := some name } ∧
    (IsElsewhere s name → (linkRef (.named (some name))).start s = (.ok (some ref), s))

theorem start_linkRef {s : Session} {name : String} (h : IsElsewhere s name) :
    (linkRef (.named (some name))).start s = (.ok (s.onlineLinks.lookup name), s) := by
  obtain ⟨language, hlanguage⟩ := Option.isSome_iff_exists.mp h.hasLanguage
  have hours : (hasPage (some name)).start s = (.ok false, s) :=
    Prod.ext (congrArg Except.ok (decide_eq_false h.notOurs)) rfl
  have hfundamental : (fundamental? (some name)).start s = (.ok none, s) :=
    Prod.ext (congrArg Except.ok h.notFundamental) rfl
  rw [linkRef, Link.named, Attempt.start_bind_ok hours, Attempt.start_bind_ok (Attempt.start_get s), hlanguage]
  dsimp only
  rw [Attempt.start_bind_ok hfundamental]
  rfl

theorem isFound_of_lookup {s : Session} {name ref : String} (h : s.onlineLinks.lookup name = some ref)
    (hne : ref ≠ "") : IsFound s name := by
  refine ⟨ref, ?_, fun helsewhere => h ▸ start_linkRef helsewhere⟩
  rw [onlineLink?, h]
  exact if_neg (by simpa using hne)

theorem IsFound.lookup_ne_none {s : Session} {name : String} (h : IsFound s name) :
    s.onlineLinks.lookup name ≠ none := by
  obtain ⟨ref, hlink, -⟩ := h
  intro hnone
  rw [onlineLink?, hnone] at hlink
  cases hlink

/-- What was put last for a name is found by it. -/
theorem isFound_of_putAll {s : Session} {links new : List (String × String)} (hs : s.onlineLinks = putAll links new)
    (hne : ∀ p ∈ new, p.2 ≠ "") {p : String × String} (hp : p ∈ new) : IsFound s p.1 := by
  have hkey : p.1 ∈ new.reverse.map Prod.fst := List.mem_map_of_mem (List.mem_reverse.mpr hp)
  obtain ⟨ref, href⟩ := Option.isSome_iff_exists.mp (isSome_lookup.mpr hkey)
  have hlookup : s.onlineLinks.lookup p.1 = some ref := by rw [hs, lookup_putAll, href, Option.some_or]
  exact isFound_of_lookup hlookup (hne _ (List.mem_reverse.mp (mem_of_lookup href)))

theorem isFound_noted {s : Session} {links : List (String × String)} {base : String} {name : Indexed → String}
    {entries : List Entry} (hs : s.onlineLinks = putAll links (entries.map (noted base name))) {e : Entry}
    (he : e ∈ entries) : IsFound s (name e.symbol) := by
  have hne : ∀ p ∈ entries.map (noted base name), p.2 ≠ "" := by simp [noted]
  have hfound := isFound_of_putAll hs hne (List.mem_map_of_mem he)
  dsimp only [noted] at hfound
  exact hfound

/-- The index of anchors says nothing of signals and properties. -/
theorem lookup_title (links : List (String × String)) (base : String) (entries : List Entry) {x : Indexed}
    (h : x.isPlain = false) :
    (putAll links (entries.map (noted base Indexed.title))).lookup x.uniqueName = links.lookup x.uniqueName := by
  have hcolon : ':' ∈ x.uniqueName.toList := by
    cases x with
    | plain kind name => cases h
    | owned kind owner name => exact Indexed.mem_uniqueName_owned kind owner name
  have hnone : (entries.map (noted base Indexed.title)).reverse.lookup x.uniqueName = none := by
    rw [List.lookup_eq_none_iff]
    intro p hp
    obtain ⟨e, -, heq⟩ := List.mem_map.mp (List.mem_reverse.mp hp)
    have hne : x.uniqueName ≠ e.symbol.title := fun hsame => e.symbol.colon_notMem_title (hsame ▸ hcolon)
    rw [← heq, bne_iff_ne]
    dsimp only [noted]
    exact hne
  rw [lookup_putAll, hnone, Option.none_or]

/-- What is known of a symbol after its index was read in the session `s`: in `t` an index of keywords was read, and in
`u` one of anchors. -/
structure Compared (s t u : Session) (x : Indexed) : Prop where
  title_eq_iff : x.title = x.uniqueName ↔ x.isPlain = true
  isFound : IsFound t x.uniqueName
  isFound_of_plain : x.isPlain = true → IsFound u x.uniqueName
  lookup_of_owned : x.isPlain = false → u.onlineLinks.lookup x.uniqueName = s.onlineLinks.lookup x.uniqueName

/-- **Both indexes lead to the symbols that are known by a C name, and to no others.** The index of keywords notes each
symbol by its unique name, so that it is found. The index of anchors notes what the anchor is read as, which is the
unique name of functions, macros and structures and never that of signals and properties. -/
theorem indexes_agree_iff (s : Session) (dir dir' base sub : String) (entries : List Entry)
    (hkeywords : HasKeywords s.environment.files dir base entries)
    (hanchors : HasAnchors s.environment.files dir' base sub entries) :
    ∃ t u, (readKeywords dir).start s = (.ok true, t) ∧ (readAnchorIndex dir').start s = (.ok (), u) ∧
      t.onlineLinks = putAll s.onlineLinks (entries.map (noted base Indexed.uniqueName)) ∧
      u.onlineLinks = putAll s.onlineLinks (entries.map (noted base Indexed.title)) ∧
      (∀ e ∈ entries, Compared s t u e.symbol) ∧
      ((∀ e ∈ entries, s.onlineLinks.lookup e.symbol.uniqueName = none) →
        (t.onlineLinks = u.onlineLinks ↔ ∀ e ∈ entries, e.symbol.isPlain = true)) := by
  obtain ⟨log, hreadKeywords⟩ := hkeywords.start_readKeywords
  obtain ⟨log', hreadAnchors⟩ := hanchors.start_readAnchorIndex
  refine ⟨_, _, hreadKeywords, hreadAnchors, rfl, rfl, fun e he => ?_,
    fun hnew => ⟨fun heq e he => ?_, fun hplain => ?_⟩⟩
  · refine ⟨e.symbol.title_eq_iff, isFound_noted rfl he, fun hplain => ?_, lookup_title _ base entries⟩
    rw [← e.symbol.title_eq_iff.mpr hplain]
    exact isFound_noted rfl he
  · by_contra howned
    have hlost := (lookup_title s.onlineLinks base entries (Bool.not_eq_true _ ▸ howned)).trans (hnew e he)
    exact (isFound_noted heq.symm he).lookup_ne_none hlost
  · have hsame : entries.map (noted base Indexed.uniqueName) = entries.map (noted base Indexed.title) := by
      refine List.map_congr_left fun e he => ?_
      rw [noted, noted, e.symbol.title_eq_iff.mpr (hplain e he)]
    dsimp only
    rw [hsame]

/-- A structure and a signal of it. -/
def buttonEntries : List Entry :=
  let owner : CName := ⟨"B", by decide, by decide⟩
  [⟨.plain .struct owner, "p", by decide, by decide⟩,
    ⟨.owned .signal owner ⟨"c", by decide, by decide⟩, "p", by decide, by decide⟩]

/-- Two directories, with the two indexes of the same symbols. -/
def buttonFiles : FileTree where
  files := [("/k/k.devhelp2", Text.Utf8.encode <|
      "<book xmlns='http://www.devhelp.net/book' online='o/'><keyword type='struct' name='B' link='p#B:CAPS'/>" ++
      "<keyword type='signal' name='The signal' link='p#B-c'/></book>"),
    ("/a/index.sgml", Text.Utf8.encode (onlineLine "o" ++ String.join (buttonEntries.map (anchorLine "b"))))]

/-- Whether a document has the keywords of the structure and of the signal. -/
def hasButton : Except Fault Xml.Element → Bool
  | .ok root => onlineBase? root = some "o/" ∧
    (keywordsOf root).map (fun n => (n.attribute? "type", n.attribute? "link", n.attribute? "name")) =
      (buttonEntries.zip ["B", "The signal"]).map fun p => (some p.1.symbol.word, some p.1.link, some p.2)
  | .error _ => false

theorem hasButton_buttonFiles :
    buttonFiles.pathExists (Path.join "/k" (Path.base "/k" ++ ".devhelp2")) = true ∧
      hasButton (readDocument buttonFiles (Path.join "/k" (Path.base "/k" ++ ".devhelp2"))) = true ∧
      (buttonFiles.readLines (Path.join "/a" "index.sgml")).toOption.map (fun r => (r.lines, r.isWhole)) =
        some (onlineLine "o" :: buttonEntries.map (anchorLine "b"), true) := by
  decide +kernel

theorem hasKeywords_button : HasKeywords buttonFiles "/k" "o" buttonEntries := by
  obtain ⟨hpath, hbutton, -⟩ := hasButton_buttonFiles
  refine ⟨hpath, ?_⟩
  cases hroot : readDocument buttonFiles (Path.join "/k" (Path.base "/k" ++ ".devhelp2")) with
  | error e =>
    rw [hroot] at hbutton
    cases hbutton
  | ok root =>
    rw [hroot] at hbutton
    obtain ⟨hbase, hkeywords⟩ := of_decide_eq_true hbutton
    refine ⟨root, rfl, hbase, ?_⟩
    obtain ⟨n, rest, hnodes, hn, hrest⟩ := List.map_eq_cons_iff.mp hkeywords
    obtain ⟨m, rest', hnodes', hm, hnil⟩ := List.map_eq_cons_iff.mp hrest
    cases List.map_eq_nil_iff.mp hnil
    simp only [Prod.mk.injEq] at hn hm
    rw [hnodes, hnodes']
    exact .cons ⟨hn.1, hn.2.1, _, hn.2.2, .inl rfl⟩ (.cons ⟨hm.1, hm.2.1, _, hm.2.2, trivial⟩ .nil)

theorem hasAnchors_button : HasAnchors buttonFiles "/a" "o" "b" buttonEntries := by
  obtain ⟨-, -, hread⟩ := hasButton_buttonFiles
  refine ⟨by decide, by decide, by decide, by decide, ?_⟩
  rcases hlines : buttonFiles.readLines (Path.join "/a" "index.sgml") with e | ⟨lines, isWhole⟩
  · rw [hlines] at hread
    cases hread
  · rw [hlines] at hread
    cases hread
    rfl

theorem indexes_agree_iff_button : HasKeywords buttonFiles "/k" "o" buttonEntries ∧
    HasAnchors buttonFiles "/a" "o" "b" buttonEntries ∧ ∃ t u,
      (readKeywords "/k").start { environment := { files := buttonFiles } } = (.ok true, t) ∧
      (readAnchorIndex "/a").start { environment := { files := buttonFiles } } = (.ok (), u) ∧
      IsFound t "B" ∧ IsFound t "B::c" ∧ IsFound u "B" ∧ u.onlineLinks.lookup "B::c" = none ∧
      t.onlineLinks ≠ u.onlineLinks := by
  obtain ⟨t, u, ht, hu, -, -, hcompared, hagree⟩ := indexes_agree_iff { environment := { files := buttonFiles } }
    "/k" "/a" "o" "b" buttonEntries hasKeywords_button hasAnchors_button
  have hstruct := hcompared _ List.mem_cons_self
  have hsignal := hcompared _ (List.mem_cons_of_mem _ List.mem_cons_self)
  have hname : (Indexed.owned .signal ⟨"B", by decide, by decide⟩ ⟨"c", by decide, by decide⟩).uniqueName =
      "B::c" := by decide
  refine ⟨hasKeywords_button, hasAnchors_button, t, u, ht, hu, hstruct.isFound, hname ▸ hsignal.isFound,
    hstruct.isFound_of_plain rfl, hname ▸ hsignal.lookup_of_owned rfl, fun heq => ?_⟩
  exact Bool.false_ne_true ((hagree fun _ _ => rfl).mp heq _ (List.mem_cons_of_mem _ List.mem_cons_self))

/-- The signal of buttons. -/
def clickedEntry : Entry where
  symbol := .owned .signal ⟨"GtkButton", by decide, by decide⟩ ⟨"clicked", by decide, by decide⟩
  page := "B.html"
  noHash := by decide
  noQuote := by decide

/-- The anchor of a signal is read as if it were that of a function, and then the signal is not found. -/
theorem signal_not_found_by_anchor : clickedEntry.symbol.uniqueName = "GtkButton::clicked" ∧
    keywordName "signal" "The signal" clickedEntry.link = .ok "GtkButton::clicked" ∧
    ∃ s : Session,
      (readAnchors true "http://y" [anchorLine "s" clickedEntry]).start { environment := {} } = (.ok 1, s) ∧
      s.onlineLinks = [("GtkButton_clicked", "http://y/B.html#GtkButton-clicked")] ∧
      onlineLink? s "GtkButton::clicked" = none := by
  have hname : clickedEntry.symbol.uniqueName = "GtkButton::clicked" := by decide
  have htitle : noted "http://y" Indexed.title clickedEntry =
      ("GtkButton_clicked", "http://y/B.html#GtkButton-clicked") := by
    rw [noted, Indexed.title, anchorTitle_of_notMem (by decide)]
    decide
  have hlinks : putAll [] ([clickedEntry].map (noted "http://y" Indexed.title)) =
      [("GtkButton_clicked", "http://y/B.html#GtkButton-clicked")] := by
    rw [List.map_singleton, htitle]
    rfl
  refine ⟨hname, hname ▸ keywordName_eq clickedEntry trivial, _,
    start_readAnchors (by decide) (by decide) (by decide) [clickedEntry] _, hlinks, ?_⟩
  rw [onlineLink?, hlinks]
  rfl

end GirDoc.Gir.OnlineIndex
