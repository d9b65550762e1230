import Gateway.NotFound
import Gateway.Proofs.Text.Pieces
import Mathlib.Data.List.Chain

/- The page for requests that nothing else answers. It shows the path of the request and the
   rules, all of them escaped. The replacements of the single characters come to the same as
   replacing each character once (`toList_escape`), so an escaped text has no character of
   markup and is read back as it was (`unescape_escape`). The page is taken apart by its tags,
   with no regard to how it was put together: its tags depend on nothing but the number of the
   rules, and the texts behind them are the escaped ones (`page_not_injectable`). -/
namespace Gateway

namespace Html

/-! ## Escaped texts -/

/-- The character as it stands in a page. -/
def escapeChar : Char → List Char
  | '&' => "&amp;".toList
  | '<' => "&lt;".toList
  | '>' => "&gt;".toList
  | '"' => "&quot;".toList
  | '\'' => "&#39;".toList
  | c => [c]

/-- Characters that tags and attributes are made of. -/
def isMarkup (c : Char) : Bool := c == '<' || c == '>' || c == '"' || c == '\''

/-- The characters of markup in a text, in order. -/
def markup (s : List Char) : List Char := s.filter isMarkup

/-- Reads the entities of a text back. -/
def unescape : List Char → List Char
  | '&' :: 'a' :: 'm' :: 'p' :: ';' :: rest => '&' :: unescape rest
  | '&' :: 'l' :: 't' :: ';' :: rest => '<' :: unescape rest
  | '&' :: 'g' :: 't' :: ';' :: rest => '>' :: unescape rest
  | '&' :: 'q' :: 'u' :: 'o' :: 't' :: ';' :: rest => '"' :: unescape rest
  | '&' :: '#' :: '3' :: '9' :: ';' :: rest => '\'' :: unescape rest
  | c :: rest => c :: unescape rest
  | [] => []

/-- A character is one of the five that are replaced, or it stands for itself. -/
theorem escapeChar_cases (c : Char) :
    (c = '&' ∨ c = '<' ∨ c = '>' ∨ c = '"' ∨ c = '\'') ∨
      escapeChar c = [c] ∧ c ≠ '&' ∧ isMarkup c = false := by
  by_cases h : c = '&' ∨ c = '<' ∨ c = '>' ∨ c = '"' ∨ c = '\''
  · exact .inl h
  · simp only [not_or] at h
    obtain ⟨hamp, hopen, hclose, hquote, happ⟩ := h
    refine .inr ⟨?_, hamp, by simp [isMarkup, hopen, hclose, hquote, happ]⟩
    unfold escapeChar
    split <;> simp_all

/-- Replacing one kind of character after the other replaces each character once. -/
theorem toList_escape (s : String) : (escape s).toList = s.toList.flatMap escapeChar := by
  simp only [escape, entities, List.foldl_cons, List.foldl_nil, String.toList_ofList,
    Text.replaceAll_singleton, List.flatMap_assoc]
  congr 1
  funext c
  -- no entity holds a character that is replaced later on
  rcases escapeChar_cases c with (rfl | rfl | rfl | rfl | rfl) | ⟨hself, hamp, hmarkup⟩
  · rfl
  · rfl
  · rfl
  · rfl
  · rfl
  · simp only [isMarkup, Bool.or_eq_false_iff] at hmarkup
    have hamp' : (c == '&') = false := by simpa using hamp
    simp only [hself, hamp', hmarkup, Bool.false_eq_true, if_false, List.flatMap_singleton]

theorem any_isMarkup_escapeChar (c : Char) : (escapeChar c).any isMarkup = false := by
  rcases escapeChar_cases c with (rfl | rfl | rfl | rfl | rfl) | ⟨hself, _, hmarkup⟩
  · decide
  · decide
  · decide
  · decide
  · decide
  · simp [hself, hmarkup]

theorem isMarkup_of_mem_escape {s : String} {c : Char} (h : c ∈ (escape s).toList) :
    isMarkup c = false := by
  rw [toList_escape] at h
  obtain ⟨d, _, hc⟩ := List.mem_flatMap.mp h
  exact Bool.eq_false_iff.mpr (List.any_eq_false.mp (any_isMarkup_escapeChar d) c hc)

theorem markup_append (s t : List Char) : markup (s ++ t) = markup s ++ markup t :=
  List.filter_append s t

/-- An escaped text has no markup. -/
@[simp] theorem markup_escape (s : String) : markup (escape s).toList = [] := by
  rw [markup, List.filter_eq_nil_iff]
  intro c hc
  rw [isMarkup_of_mem_escape hc]
  decide

theorem unescape_cons {c : Char} (h : c ≠ '&') (rest : List Char) :
    unescape (c :: rest) = c :: unescape rest := by
  rw [unescape]
  all_goals
    intro _ hc
    exact absurd hc h

/-- An escaped text is read back as it was. -/
theorem unescape_escape (s : String) : unescape (escape s).toList = s.toList := by
  rw [toList_escape]
  induction s.toList with
  | nil => rfl
  | cons c rest ih =>
    rw [List.flatMap_cons]
    rcases escapeChar_cases c with (rfl | rfl | rfl | rfl | rfl) | ⟨hself, hamp, _⟩
    · exact congrArg ('&' :: ·) ih
    · exact congrArg ('<' :: ·) ih
    · exact congrArg ('>' :: ·) ih
    · exact congrArg ('"' :: ·) ih
    · exact congrArg ('\'' :: ·) ih
    · rw [hself, List.singleton_append, unescape_cons hamp, ih]

/-! ## Taking a page apart -/

/-- The tags of a page, each with the text behind it up to the next one. -/
def tagged (page : List Char) : List (List Char × List Char) :=
  (page.splitOn '<').tail.map fun piece =>
    (piece.takeWhile (· != '>'), (piece.dropWhile (· != '>')).tail)

/-- The tags of a page, with their attributes. -/
def tags (page : List Char) : List (List Char) := (tagged page).map Prod.fst

/-- Whether each tag of these kinds is followed by the one that closes it. -/
def ClosedAtOnce (kinds : List String) (page : List Char) : Prop :=
  (tags page).IsChain fun tag next => tag ∈ kinds.map String.toList → next = '/' :: tag

/-- The texts behind the tags of a kind. -/
def textsBehind (tag : List Char) (parts : List (List Char × List Char)) : List (List Char) :=
  (parts.filter fun part => part.1 = tag).map Prod.snd

/-- The texts in a page that stand behind the tags of a kind. They are the texts in the elements
    of that kind if each of these tags is followed by the one that closes it. -/
def textsIn (tag : String) (page : List Char) : List (List Char) :=
  textsBehind tag.toList (tagged page)

theorem textsBehind_append (tag : List Char) (a b : List (List Char × List Char)) :
    textsBehind tag (a ++ b) = textsBehind tag a ++ textsBehind tag b := by
  simp [textsBehind]

theorem textsBehind_cons_self (tag text : List Char) (rest : List (List Char × List Char)) :
    textsBehind tag ((tag, text) :: rest) = text :: textsBehind tag rest := by
  simp [textsBehind]

theorem textsBehind_cons_ne {tag other : List Char} (h : other ≠ tag) (text : List Char)
    (rest : List (List Char × List Char)) :
    textsBehind tag ((other, text) :: rest) = textsBehind tag rest := by
  simp [textsBehind, h]

theorem textsIn_eq_nil {tag : String} {page : List Char} (h : tag.toList ∉ tags page) :
    textsIn tag page = [] := by
  rw [textsIn, textsBehind, List.map_eq_nil_iff, List.filter_eq_nil_iff]
  intro part hpart htag
  exact h (List.mem_map.mpr ⟨part, hpart, of_decide_eq_true htag⟩)

/-- A page is taken apart at a tag in any place. -/
theorem tagged_append (s t : List Char) :
    tagged (s ++ '<' :: t) = tagged s ++ tagged ('<' :: t) := by
  obtain ⟨first, more, hcut⟩ := List.ne_nil_iff_exists_cons.mp (List.splitOn_ne_nil '<' s)
  have hopen : ('<' :: t).splitOn '<' = [] :: t.splitOn '<' :=
    List.splitOn_append_cons_self [] t
  rw [tagged, tagged, tagged, List.splitOn_append_cons_self, hopen, hcut]
  simp

/-- The text before the first tag is of no account. -/
theorem tagged_text {s : List Char} (h : '<' ∉ s) (t : List Char) : tagged (s ++ t) = tagged t := by
  rw [tagged, Text.splitOn_append_of_not_mem h, List.tail_modifyHead, tagged]

/-- A tag, and what follows it. -/
theorem tagged_tag {tag : List Char} (hopen : '<' ∉ tag) (hclose : '>' ∉ tag) (t : List Char) :
    tagged ('<' :: (tag ++ '>' :: t)) = (tag, t.takeWhile (· != '<')) :: tagged t := by
  obtain ⟨more, hcut⟩ := Text.splitOn_eq_cons '<' t
  have hopen' : '<' ∉ tag ++ ['>'] := by simp [hopen]
  have hpieces : ('<' :: (tag ++ '>' :: t)).splitOn '<' =
      [] :: (tag ++ '>' :: t.takeWhile (· != '<')) :: more := by
    have hstart : ('<' :: (tag ++ '>' :: t)).splitOn '<' =
        [] :: ((tag ++ ['>']) ++ t).splitOn '<' := by
      simpa using List.splitOn_append_cons_self (a := '<') [] (tag ++ '>' :: t)
    rw [hstart, Text.splitOn_append_of_not_mem hopen', hcut]
    simp
  have hkeep : ∀ c ∈ tag, (c != '>') = true := by
    intro c hc
    have hne : c ≠ '>' := fun h => hclose (h ▸ hc)
    simpa using hne
  rw [tagged, hpieces, tagged, hcut]
  simp [List.takeWhile_append_of_pos hkeep, List.dropWhile_append_of_pos hkeep]

/-- An escaped text in a page belongs to the tag in front of it. -/
theorem tagged_escape {tag : List Char} (hopen : '<' ∉ tag) (hclose : '>' ∉ tag) (s : String)
    (t : List Char) :
    tagged ('<' :: (tag ++ '>' :: ((escape s).toList ++ '<' :: t))) =
      (tag, (escape s).toList) :: tagged ('<' :: t) := by
  have hkeep : ∀ c ∈ (escape s).toList, c ≠ '<' := by
    rintro c hc rfl
    cases isMarkup_of_mem_escape hc
  rw [tagged_tag hopen hclose, tagged_text fun h => hkeep _ h rfl,
    List.takeWhile_append_of_pos (by simpa using hkeep)]
  simp

/-- Tags can follow others that end in one which is none of these kinds. -/
theorem isChain_closing_append {kinds : List (List Char)} {a b : List (List Char)}
    (ha : a.IsChain fun tag next => tag ∈ kinds → next = '/' :: tag)
    (hlast : ∀ tag ∈ a.getLast?, tag ∉ kinds)
    (hb : b.IsChain fun tag next => tag ∈ kinds → next = '/' :: tag) :
    (a ++ b).IsChain fun tag next => tag ∈ kinds → next = '/' :: tag :=
  ha.append hb fun tag htag _ _ hkind => absurd hkind (hlast tag htag)

end Html

namespace NotFound
open Html

/-! ## The list of the rules -/

/-- The tags in front of the items. -/
def openTags : List (List Char) := ["h2", "/h2", "ul"].map String.toList

/-- The tags of an item. -/
def itemTags : List (List Char) := ["li", "code", "/code", "/li"].map String.toList

/-- The tags behind the items. -/
def closeTags : List (List Char) := ["/ul", "/body", "/html"].map String.toList

/-- The tags of the note that there are no rules, and those behind it. -/
def emptyTags : List (List Char) :=
  ["p", "em", "/em", "/p", "/body", "/html"].map String.toList

theorem tags_openList : tags openList.toList = openTags := by decide +kernel

theorem tags_closeList : tags (closeList.toList ++ tail.toList) = closeTags := by decide +kernel

theorem tags_noList : tags (noList.toList ++ tail.toList) = emptyTags := by decide +kernel

/-- The item of a rule. -/
def item (r : Rule) : List Char :=
  openItem.toList ++ ((escape r.describe).toList ++ closeItem.toList)

/-- The list of the rules and what follows it. -/
def listing (rules : RuleSet) : List Char :=
  if rules.isEmpty then noList.toList ++ tail.toList
  else openList.toList ++ (rules.flatMap item ++ (closeList.toList ++ tail.toList))

theorem toList_rulesPart (rules : RuleSet) :
    (rulesPart rules).toList ++ tail.toList = listing rules := by
  cases hempty : rules.isEmpty with
  | true => rw [rulesPart, listing, hempty, if_pos rfl, if_pos rfl]
  | false =>
    have hitem (r : Rule) : (openItem ++ escape r.describe ++ closeItem).toList = item r := by
      rw [String.toList_append, String.toList_append, item, List.append_assoc]
    rw [rulesPart, listing, hempty, if_neg Bool.false_ne_true, if_neg Bool.false_ne_true,
      String.toList_append, String.toList_append, String.toList_join, List.flatMap_map,
      List.append_assoc, List.append_assoc, funext hitem]

/-- An item, taken apart, with what follows it. -/
theorem tagged_item (r : Rule) (t : List Char) :
    tagged (item r ++ t) =
      ("li".toList, []) :: ("code".toList, (escape r.describe).toList) :: ("/code".toList, []) ::
        ("/li".toList, t.takeWhile (· != '<')) :: tagged t := by
  have hitem : item r ++ t = '<' :: ("li".toList ++ '>' :: '<' :: ("code".toList ++ '>' ::
      ((escape r.describe).toList ++ '<' :: ("/code".toList ++ '>' :: '<' :: ("/li".toList ++
        '>' :: t))))) := by
    simp [item, openItem, closeItem]
  rw [hitem, tagged_tag (by decide) (by decide), tagged_escape (by decide) (by decide),
    tagged_tag (by decide) (by decide), tagged_tag (by decide) (by decide)]
  rfl

theorem tags_item (r : Rule) (t : List Char) : tags (item r ++ t) = itemTags ++ tags t := by
  rw [tags, tagged_item]
  rfl

/-- The text of an item is the description of the rule. -/
theorem textsIn_item (r : Rule) (t : List Char) :
    textsIn "code" (item r ++ t) = (escape r.describe).toList :: textsIn "code" t := by
  rw [textsIn, tagged_item, textsBehind_cons_ne (by decide), textsBehind_cons_self,
    textsBehind_cons_ne (by decide), textsBehind_cons_ne (by decide), textsIn]

theorem tags_items (rules : RuleSet) (t : List Char) :
    tags (rules.flatMap item ++ t) = (List.replicate rules.length itemTags).flatten ++ tags t := by
  induction rules with
  | nil => rfl
  | cons r rest ih =>
    rw [List.flatMap_cons, List.append_assoc, tags_item, ih, List.length_cons,
      List.replicate_succ, List.flatten_cons, List.append_assoc]

/-- The texts of the items are the descriptions of the rules, in order. -/
theorem textsIn_items (rules : RuleSet) (t : List Char) :
    textsIn "code" (rules.flatMap item ++ t) =
      rules.map (fun r => (escape r.describe).toList) ++ textsIn "code" t := by
  induction rules with
  | nil => rfl
  | cons r rest ih =>
    rw [List.flatMap_cons, List.append_assoc, textsIn_item, ih]
    rfl

/-- The tags of a list of so many rules, and of the page behind it. -/
def listTags (n : Nat) : List (List Char) :=
  if n = 0 then emptyTags else openTags ++ ((List.replicate n itemTags).flatten ++ closeTags)

theorem tagged_listing {rules : RuleSet} (h : rules ≠ []) :
    tagged (listing rules) =
      tagged openList.toList ++ tagged (rules.flatMap item ++ (closeList.toList ++ tail.toList)) := by
  obtain ⟨r, rest, rfl⟩ := List.ne_nil_iff_exists_cons.mp h
  rw [listing, if_neg (by simp)]
  exact tagged_append _ _

theorem tags_listing (rules : RuleSet) : tags (listing rules) = listTags rules.length := by
  by_cases h : rules = []
  · subst h
    exact tags_noList
  · have hne : rules.length ≠ 0 := by simpa using h
    rw [tags, tagged_listing h, List.map_append, ← tags, ← tags, tags_items, tags_openList,
      tags_closeList, listTags, if_neg hne]

theorem textsIn_code_listing (rules : RuleSet) :
    textsIn "code" (listing rules) = rules.map fun r => (escape r.describe).toList := by
  have hopen : textsIn "code" openList.toList = [] :=
    textsIn_eq_nil (by rw [tags_openList]; decide)
  have hclose : textsIn "code" (closeList.toList ++ tail.toList) = [] :=
    textsIn_eq_nil (by rw [tags_closeList]; decide)
  by_cases h : rules = []
  · subst h
    exact textsIn_eq_nil (by rw [tags_listing]; decide)
  · rw [textsIn, tagged_listing h, textsBehind_append, ← textsIn, ← textsIn, textsIn_items, hopen,
      hclose, List.nil_append, List.append_nil]

theorem strong_notMem_listTags (n : Nat) : "strong".toList ∉ listTags n := by
  have hopen : "strong".toList ∉ openTags := by decide
  have hclose : "strong".toList ∉ closeTags := by decide
  have hitems : "strong".toList ∉ (List.replicate n itemTags).flatten := by
    intro hmem
    obtain ⟨block, hblock, hmem⟩ := List.mem_flatten.mp hmem
    rw [List.eq_of_mem_replicate hblock] at hmem
    exact absurd hmem (by decide)
  unfold listTags
  split
  · decide
  · simp only [List.mem_append, hopen, hitems, hclose, or_self, not_false_eq_true]

theorem isChain_listTags (n : Nat) :
    (listTags n).IsChain fun tag next =>
      tag ∈ ["strong", "code"].map String.toList → next = '/' :: tag := by
  unfold listTags
  split
  · decide
  · refine isChain_closing_append (by decide) (by decide) ?_
    clear * -
    induction n with
    | zero => decide
    | succ n ih =>
      rw [List.replicate_succ, List.flatten_cons, List.append_assoc]
      exact isChain_closing_append (by decide) (by decide) ih

theorem count_li_listTags (n : Nat) : (listTags n).count "li".toList = n := by
  have hempty : emptyTags.count "li".toList = 0 := by decide
  have hopen : openTags.count "li".toList = 0 := by decide
  have hclose : closeTags.count "li".toList = 0 := by decide
  have hitem : itemTags.count "li".toList = 1 := by decide
  unfold listTags
  split
  · rw [hempty, ‹n = 0›]
  · rw [List.count_append, List.count_append, hopen, hclose, List.count_flatten,
      List.map_replicate, hitem, List.sum_replicate_nat]
    omega

/-- The markup of the items is that of so many items. -/
theorem markup_items (rules : RuleSet) :
    markup (rules.flatMap item) =
      (List.replicate rules.length (markup openItem.toList ++ markup closeItem.toList)).flatten := by
  induction rules with
  | nil => rfl
  | cons r rest ih =>
    rw [List.flatMap_cons, markup_append, ih, item, markup_append, markup_append, markup_escape,
      List.nil_append, List.length_cons, List.replicate_succ, List.flatten_cons]

theorem markup_listing {rules rules' : RuleSet} (h : rules.length = rules'.length) :
    markup (listing rules) = markup (listing rules') := by
  have hempty : rules.isEmpty = rules'.isEmpty := by
    rw [Bool.eq_iff_iff, List.isEmpty_iff_length_eq_zero, List.isEmpty_iff_length_eq_zero, h]
  rw [listing, listing, hempty]
  split
  · rfl
  · simp only [markup_append, markup_items, h]

/-! ## The page -/

theorem handler_run (rules : RuleSet) (request : Request) (x : Exchange) :
    handler rules request x = (.done ⟨404, [("content-type", .text "text/html")],
      .text (page rules request.url.pathname)⟩, x) := by
  rw [handler, response]
  rfl

/-- The tags in front of the path. -/
def headTags : List (List Char) :=
  ["html", "head", "title", "/title", "/head",
    "body style=\"font-family: system-ui; padding: 40px; max-width: 600px; margin: 0 auto;\"",
    "h1", "/h1", "p"].map String.toList

theorem tags_head : tags head.toList = headTags := by decide +kernel

theorem toList_page (rules : RuleSet) (path : String) :
    (page rules path).toList = head.toList ++ '<' :: ("strong".toList ++ '>' ::
      ((escape path).toList ++ '<' :: ("/strong".toList ++ '>' ::
        (middle.toList ++ listing rules)))) := by
  have hopen : openPath.toList = '<' :: ("strong".toList ++ ['>']) := by decide
  have hclose : closePath.toList = '<' :: ("/strong".toList ++ ['>']) := by decide
  simp only [page, String.toList_append, List.append_assoc, toList_rulesPart, hopen, hclose,
    List.cons_append, List.nil_append]

/-- The page, taken apart. -/
theorem tagged_page (rules : RuleSet) (path : String) :
    ∃ text, tagged (page rules path).toList =
      tagged head.toList ++ ("strong".toList, (escape path).toList) :: ("/strong".toList, []) ::
        ("/p".toList, text) :: tagged (listing rules) := by
  have hmiddle : middle.toList ++ listing rules =
      '<' :: ("/p".toList ++ '>' :: ("\n          ".toList ++ listing rules)) := rfl
  refine ⟨("\n          ".toList ++ listing rules).takeWhile (· != '<'), ?_⟩
  rw [toList_page, tagged_append, tagged_escape (by decide) (by decide),
    tagged_tag (by decide) (by decide), hmiddle, tagged_tag (by decide) (by decide),
    tagged_text (by decide), List.takeWhile_cons_of_neg (by decide)]

theorem tags_page (rules : RuleSet) (path : String) :
    tags (page rules path).toList =
      headTags ++ ("strong".toList :: "/strong".toList :: "/p".toList ::
        listTags rules.length) := by
  obtain ⟨text, hpage⟩ := tagged_page rules path
  rw [← tags_listing, ← tags_head, tags, tags, tags, hpage]
  simp only [List.map_append, List.map_cons]

/-- The path is shown once, in front of the list. -/
theorem textsIn_strong_page (rules : RuleSet) (path : String) :
    textsIn "strong" (page rules path).toList = [(escape path).toList] := by
  obtain ⟨text, hpage⟩ := tagged_page rules path
  have hhead : textsIn "strong" head.toList = [] := textsIn_eq_nil (by rw [tags_head]; decide)
  have hlisting : textsIn "strong" (listing rules) = [] :=
    textsIn_eq_nil (tags_listing rules ▸ strong_notMem_listTags rules.length)
  rw [textsIn, hpage, textsBehind_append, textsBehind_cons_self, textsBehind_cons_ne (by decide),
    textsBehind_cons_ne (by decide), ← textsIn, ← textsIn, hhead, hlisting, List.nil_append]

/-- The descriptions of the rules are shown in order, and nothing else is. -/
theorem textsIn_code_page (rules : RuleSet) (path : String) :
    textsIn "code" (page rules path).toList = rules.map fun r => (escape r.describe).toList := by
  obtain ⟨text, hpage⟩ := tagged_page rules path
  have hhead : textsIn "code" head.toList = [] := textsIn_eq_nil (by rw [tags_head]; decide)
  rw [textsIn, hpage, textsBehind_append, textsBehind_cons_ne (by decide),
    textsBehind_cons_ne (by decide), textsBehind_cons_ne (by decide), ← textsIn, ← textsIn, hhead,
    textsIn_code_listing, List.nil_append]

/-- A page has as many items in its list as there are rules. -/
theorem count_li_page (rules : RuleSet) (path : String) :
    (tags (page rules path).toList).count "li".toList = rules.length := by
  have hhead : headTags.count "li".toList = 0 := by decide
  rw [tags_page, List.count_append, hhead, List.count_cons_of_ne (by decide),
    List.count_cons_of_ne (by decide), List.count_cons_of_ne (by decide), count_li_listTags,
    Nat.zero_add]

/-- The elements of the path and of the descriptions hold a text and no tags. -/
theorem closedAtOnce_page (rules : RuleSet) (path : String) :
    ClosedAtOnce ["strong", "code"] (page rules path).toList := by
  rw [ClosedAtOnce, tags_page]
  refine isChain_closing_append (by decide) (by decide) ?_
  exact isChain_closing_append (a := ["strong".toList, "/strong".toList, "/p".toList])
    (by decide) (by decide) (isChain_listTags rules.length)

/-- The markup of a page depends on the number of the rules only. -/
theorem markup_page {rules rules' : RuleSet} (h : rules.length = rules'.length)
    (path path' : String) :
    markup (page rules path).toList = markup (page rules' path').toList := by
  simp only [page, String.toList_append, List.append_assoc, toList_rulesPart]
  simp only [markup_append, markup_escape, markup_listing h]

/-- The page shows the path and these descriptions in elements that hold nothing else, and has one
    item for each description. -/
structure Shows (page : String) (path : String) (descriptions : List String) : Prop where
  closed : ClosedAtOnce ["strong", "code"] page.toList
  shownPath : (textsIn "strong" page.toList).map unescape = [path.toList]
  shownRules : (textsIn "code" page.toList).map unescape = descriptions.map String.toList
  items : (tags page.toList).count "li".toList = descriptions.length

theorem page_shows (rules : RuleSet) (path : String) :
    Shows (page rules path) path (rules.map Rule.describe) where
  closed := closedAtOnce_page rules path
  shownPath := by rw [textsIn_strong_page, List.map_singleton, unescape_escape]
  shownRules := by
    rw [textsIn_code_page, List.map_map, List.map_map]
    apply List.map_congr_left
    intro r _
    rw [Function.comp_apply, unescape_escape, Function.comp_apply]
  items := by rw [count_li_page, List.length_map]

/-- The pages that two requests get under rule sets of the same length have the same markup and
    the same tags. Each shows the path of its request and the descriptions of its rules in
    order. -/
theorem page_not_injectable {rules rules' : RuleSet} (h : rules.length = rules'.length)
    (request request' : Request) :
    ∃ p p' : String,
      (∀ x, handler rules request x =
        (.done ⟨404, [("content-type", .text "text/html")], .text p⟩, x)) ∧
      (∀ x, handler rules' request' x =
        (.done ⟨404, [("content-type", .text "text/html")], .text p'⟩, x)) ∧
      markup p.toList = markup p'.toList ∧ tags p.toList = tags p'.toList ∧
      Shows p request.url.pathname (rules.map Rule.describe) ∧
      Shows p' request'.url.pathname (rules'.map Rule.describe) := by
  refine ⟨page rules request.url.pathname, page rules' request'.url.pathname,
    handler_run rules request, handler_run rules' request', markup_page h _ _, ?_,
    page_shows _ _, page_shows _ _⟩
  rw [tags_page, tags_page, h]

/-- A request for the path of these segments. -/
def pathRequest (segments : List String) : Request where
  method := "GET"
  url := ⟨"http", "", "", some (.name "localhost"), none, .segments segments, none, none⟩
  headers := []
  context := .object []

/-- A rule whose key and target would close its element and open others if they were not escaped,
    and one without any markup. -/
theorem tags_in_key_not_injected :
    let marked : Rule := ⟨.literal "/</code><b>&amp;", "http://b.test/'\"", .none⟩
    let plain : Rule := ⟨.literal "/api/", "http://b.test", .none⟩
    [marked].length = [plain].length ∧
      ∃ p p' : String, markup p.toList = markup p'.toList ∧ tags p.toList = tags p'.toList ∧
        Shows p "/it's/&lt;" [marked.describe] ∧ Shows p' "/x" [plain.describe] := by
  intro marked plain
  obtain ⟨p, p', -, -, hmarkup, htags, hp, hp'⟩ :=
    @page_not_injectable [marked] [plain] rfl (pathRequest ["it's", "&lt;"]) (pathRequest ["x"])
  exact ⟨rfl, p, p', hmarkup, htags, hp, hp'⟩

end NotFound

end Gateway
