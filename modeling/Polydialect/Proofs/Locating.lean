import Polydialect.Proofs.Connecting
import Polydialect.Sqlite.Location

/-!
# Spellings of a SQLite location

A path is written as it stands, behind the scheme of SQLite, as a URL, or under a key
(`Sqlite.Spelling`). The name of the database is read from the connection string
(`ConnectionInfo.ofText`) apart from the location that is opened (`Sqlite.location`).

* `Sqlite.leads_text`: every spelling of a path leads to that path, up to percent codes;
* `Sqlite.spellings_name_iff`: the name is the path in all spellings but the URL, whose path is
  taken for the name of a host (`Sqlite.url_loses_path`).
-/

namespace Polydialect.Sqlite

open Text

/-- A path that can be told apart in every spelling. -/
structure IsPath (p : String) : Prop where
  nonempty : p ≠ ""
  trimmed : trim p = p
  equals : '=' ∉ p.toList
  semicolon : ';' ∉ p.toList
  question : '?' ∉ p.toList
  atSign : '@' ∉ p.toList
  mark : ¬ ConnectionInfo.HoldsMark p
  scheme : ¬ "sqlite:".toList <+: p.toList

/-- How a location is spelled. -/
inductive Spelling where
  | bare
  | scheme
  | url
  | keyed
  deriving DecidableEq, Repr

/-- What stands before the path. -/
def Spelling.lead : Spelling → String
  | .bare => ""
  | .scheme => "sqlite:"
  | .url => "sqlite://"
  | .keyed => "Data Source="

/-- A path in a spelling. -/
def Spelling.text (s : Spelling) (p : String) : String := s.lead ++ p

/-- A connection string leads to the database at a path, without parameters. Percent codes of the
path stand for what they mean. -/
structure LeadsTo (connection p : String) : Prop where
  path : path? (location connection) = Percent.decode? p.toList
  parameters : parameters (location connection) = []

/-- What stands behind the first slash, empty without one. -/
def behindSlash (p : String) : String := .ofList ((cut? '/' p.toList).elim [] Prod.snd)

variable {p q : String}

/-! ## The text of a spelling -/

theorem toList_text (s : Spelling) (p : String) :
    (s.text p).toList = s.lead.toList ++ p.toList := String.toList_append

theorem IsPath.toList_ne_nil (hp : IsPath p) : p.toList ≠ [] := by
  simpa using hp.nonempty

theorem IsPath.trimmed_toList (hp : IsPath p) : Text.trimmed p.toList = p.toList := by
  simpa [trim] using congrArg String.toList hp.trimmed

/-- No spelling has blanks at its ends. -/
theorem trimmed_text (hp : IsPath p) (s : Spelling) :
    Text.trimmed (s.text p).toList = (s.text p).toList := by
  obtain ⟨hfirst, r, c, hlast, hc⟩ := (trimmed_eq_self_iff hp.toList_ne_nil).1 hp.trimmed_toList
  rw [toList_text, trimmed_eq_self_iff (by simp [hp.toList_ne_nil])]
  refine ⟨?_, s.lead.toList ++ r, c, by rw [hlast, List.append_assoc], hc⟩
  cases s with
  | bare => exact hfirst
  | scheme => exact ⟨_, _, rfl, by decide⟩
  | url => exact ⟨_, _, rfl, by decide⟩
  | keyed => exact ⟨_, _, rfl, by decide⟩

/-! ## The location -/

theorem withoutScheme_eq_self (h : ¬ "sqlite:".toList <+: p.toList) :
    withoutScheme p.toList = p.toList := by
  have hurl : ¬ "sqlite://".toList <+: p.toList := fun h' =>
    h (List.IsPrefix.trans (by decide) h')
  rw [withoutScheme, dropWords_eq_self hurl, dropWords_eq_self h]

theorem withoutScheme_url (h : ¬ "sqlite:".toList <+: p.toList) :
    withoutScheme (Spelling.url.text p).toList = p.toList := by
  have hurl : ¬ "sqlite://".toList <+: p.toList := fun h' =>
    h (List.IsPrefix.trans (by decide) h')
  have hdrop : dropWords "sqlite://".toList ("sqlite://".toList ++ p.toList) = p.toList :=
    dropWords_append (by decide) hurl
  rw [withoutScheme, toList_text, Spelling.lead, hdrop, dropWords_eq_self h]

/-- Behind the scheme two slashes would make a URL. -/
theorem withoutScheme_scheme (h : ¬ "sqlite:".toList <+: p.toList)
    (hs : ¬ "//".toList <+: p.toList) :
    withoutScheme (Spelling.scheme.text p).toList = p.toList := by
  have hurl : ¬ "sqlite://".toList <+: "sqlite:".toList ++ p.toList := fun h' =>
    hs ((List.prefix_append_right_inj "sqlite:".toList).1 h')
  have hdrop : dropWords "sqlite:".toList ("sqlite:".toList ++ p.toList) = p.toList :=
    dropWords_append (by decide) h
  rw [withoutScheme, toList_text, Spelling.lead, dropWords_eq_self hurl, hdrop]

theorem location_of_scheme (hp : IsPath p) {s : Spelling}
    (h : "sqlite:".toList <+: (s.text p).toList) : location (s.text p) = s.text p := by
  have hscheme : "sqlite:".toList.isPrefixOf (s.text p).toList = true :=
    List.isPrefixOf_iff_prefix.2 h
  rw [location, trimmed_text hp]
  show (if _ then _ else _) = _
  rw [hscheme, Bool.true_or, if_pos rfl, String.ofList_toList]

theorem location_bare (hp : IsPath p) : location (Spelling.bare.text p) = p := by
  have hequals : p.toList.contains '=' = false := by simpa using hp.equals
  rw [location, trimmed_text hp, toList_text, Spelling.lead]
  show (if _ || !p.toList.contains '=' then String.ofList p.toList else _) = p
  rw [hequals, Bool.not_false, Bool.or_true, if_pos rfl, String.ofList_toList]

theorem location_keyed (hp : IsPath p) : location (Spelling.keyed.text p) = p := by
  have htext : (Spelling.keyed.text p).toList = "Data Source".toList ++ '=' :: p.toList :=
    toList_text .keyed p
  have hequals : (Spelling.keyed.text p).toList.contains '=' = true := by simp [htext]
  have hpieces : pieces ';' (Spelling.keyed.text p).toList = [(Spelling.keyed.text p).toList] := by
    refine pieces_of_not_mem ?_
    rw [htext, List.mem_append, List.mem_cons, not_or, not_or]
    exact ⟨by decide, by decide, hp.semicolon⟩
  have hcut : cut? '=' (Spelling.keyed.text p).toList = some ("Data Source".toList, p.toList) := by
    rw [htext, cut?_append (by decide)]
  have hscheme : "sqlite:".toList.isPrefixOf (Spelling.keyed.text p).toList = false := by
    rw [toList_text]
    rfl
  rw [location, trimmed_text hp]
  show (if _ then _ else _) = _
  rw [hscheme, hequals, Bool.not_true, Bool.or_false, if_neg Bool.false_ne_true, hpieces,
    List.filterMap_cons, hcut]
  show String.ofList (Text.trimmed p.toList) = p
  rw [hp.trimmed_toList, String.ofList_toList]

/-- What the location of a spelling is without its scheme. -/
theorem withoutScheme_location (hp : IsPath p) (s : Spelling)
    (hs : s = .scheme → ¬ "//".toList <+: p.toList) :
    withoutScheme (location (s.text p)).toList = p.toList := by
  cases s with
  | bare => rw [location_bare hp, withoutScheme_eq_self hp.scheme]
  | scheme =>
    have hstart : "sqlite:".toList <+: (Spelling.scheme.text p).toList := by
      rw [toList_text]
      exact List.prefix_append _ _
    rw [location_of_scheme hp hstart, withoutScheme_scheme hp.scheme (hs rfl)]
  | url =>
    have hstart : "sqlite:".toList <+: (Spelling.url.text p).toList := by
      rw [toList_text]
      exact List.IsPrefix.trans (by decide) (List.prefix_append _ _)
    rw [location_of_scheme hp hstart, withoutScheme_url hp.scheme]
  | keyed => rw [location_keyed hp, withoutScheme_eq_self hp.scheme]

/-- Every spelling leads to its path. Behind the scheme this takes a path that does not start with
two slashes, since the text would spell what follows them as a URL. -/
theorem leads_text (hp : IsPath p) (s : Spelling) (hs : s = .scheme → ¬ "//".toList <+: p.toList) :
    LeadsTo (s.text p) p where
  path := by
    rw [path?, withoutScheme_location hp s hs, before_eq_self hp.question]
  parameters := by
    rw [parameters, withoutScheme_location hp s hs, cut?_eq_none_iff.2 hp.question]

/-! ## The name -/

/-- A URL has no user without an `@`, and its name is what follows the first slash. -/
theorem ofUrl_eq (hat : '@' ∉ q.toList) (hquestion : '?' ∉ q.toList) :
    ConnectionInfo.ofUrl q.toList = ⟨"", behindSlash q⟩ := by
  rw [ConnectionInfo.ofUrl, behindSlash]
  cases hcut : cut? '/' q.toList with
  | none =>
    have huser : cutLast? '@' q.toList = none := by
      rw [cutLast?, cut?_eq_none_iff.2 (by simpa using hat)]
      rfl
    simp only [Option.getD_none, huser]
    rfl
  | some parts =>
    obtain ⟨host, path⟩ := parts
    obtain ⟨-, hq⟩ := cut?_eq_some_iff.1 hcut
    have huser : cutLast? '@' host = none := by
      rw [cutLast?, cut?_eq_none_iff.2 (by simp_all)]
      rfl
    have hpath : before '?' path = path := before_eq_self (by simp_all)
    simp only [Option.getD_some, huser, hpath]
    rfl

theorem length_behindSlash_le (q : String) : (behindSlash q).length ≤ q.length - 1 := by
  rw [← String.length_toList, ← String.length_toList, behindSlash, String.toList_ofList]
  cases hcut : cut? '/' q.toList with
  | none => exact Nat.zero_le _
  | some parts =>
    obtain ⟨host, path⟩ := parts
    rw [(cut?_eq_some_iff.1 hcut).2, List.length_append, List.length_cons]
    show path.length ≤ _
    omega

/-- A path is longer than what follows the first slash in the URL that one of its texts spells. -/
theorem behindSlash_ne (hp : IsPath p) {s : Spelling} (h : s.text p = Spelling.url.text q) :
    behindSlash q ≠ p := by
  have hlength : s.lead.length + p.length = Spelling.url.lead.length + q.length := by
    rw [← String.length_append, ← String.length_append]
    exact congrArg String.length h
  have hlead : s.lead.length ≤ Spelling.url.lead.length := by
    cases s with
    | keyed =>
      have htoList := congrArg String.toList h
      simp [toList_text, Spelling.lead] at htoList
    | _ => decide
  have hpos : 0 < p.length := by
    rw [← String.length_toList]
    exact List.length_pos_iff.2 hp.toList_ne_nil
  have hle := length_behindSlash_le q
  rintro rfl
  omega

theorem not_mark_of_not_mem {s : List Char} (h : ':' ∉ s) : ¬ "://".toList <:+: s :=
  fun hmark => h (hmark.subset (by decide))

/-- A text that spells a URL is read as one, whatever it spells besides. -/
theorem ofText_url (hp : IsPath p) {s : Spelling} (h : s.text p = Spelling.url.text q) :
    ConnectionInfo.ofText (s.text p) = ⟨"", behindSlash q⟩ := by
  have hmem {c : Char} (hlead : c ∉ s.lead.toList) (hc : c ∉ p.toList) : c ∉ q.toList := by
    intro hq
    have htext : c ∈ (s.text p).toList := by
      rw [h, toList_text]
      exact List.mem_append_right _ hq
    rw [toList_text] at htext
    exact (List.mem_append.1 htext).elim hlead hc
  have hat : '@' ∉ q.toList := hmem (by cases s <;> decide) hp.atSign
  have hquestion : '?' ∉ q.toList := hmem (by cases s <;> decide) hp.question
  have hfront : ¬ "://".toList <:+: "sqlite".toList := not_mark_of_not_mem (by decide)
  have hsplit : (Spelling.url.text q).toList = "sqlite".toList ++ ("://".toList ++ q.toList) := by
    simp [toList_text, Spelling.lead]
  have hcut : cutWord? "://".toList (Text.trimmed (s.text p).toList) =
      some ("sqlite".toList, q.toList) := by
    rw [trimmed_text hp, h]
    exact ConnectionInfo.cutMark_eq_some_iff.2 ⟨hfront, hsplit⟩
  rw [ConnectionInfo.ofText, hcut]
  exact ofUrl_eq hat hquestion

/-- Apart from a URL no spelling has the mark of one. -/
theorem not_holdsMark_text (hp : IsPath p) {s : Spelling}
    (h : ¬ Spelling.url.lead.toList <+: (s.text p).toList) :
    ¬ ConnectionInfo.HoldsMark (s.text p) := by
  rw [ConnectionInfo.HoldsMark, toList_text]
  rw [toList_text] at h
  cases s with
  | bare => exact hp.mark
  | scheme =>
    -- a mark could start at the colon of the scheme, or in the path
    intro hmark
    have hslashes : ¬ "//".toList <+: p.toList := fun hs =>
      h ((List.prefix_append_right_inj "sqlite:".toList).2 hs)
    have hcolon : "://".toList <:+: ':' :: p.toList := by
      simpa [Spelling.lead, List.infix_cons_iff] using hmark
    rcases List.infix_cons_iff.1 hcolon with hs | hs
    · exact hslashes (List.cons_prefix_cons.1 hs).2
    · exact hp.mark hs
  | url => exact absurd (List.prefix_append _ _) h
  | keyed =>
    have hsplit : Spelling.keyed.lead.toList ++ p.toList =
        "Data Source".toList ++ '=' :: p.toList := by
      simp [Spelling.lead]
    rw [hsplit, infix_append_cons_iff (by decide) (by decide)]
    exact not_or.2 ⟨not_mark_of_not_mem (by decide), hp.mark⟩

/-- A path under its key is a list of one pair. -/
theorem ofText_keyed (hp : IsPath p) : ConnectionInfo.ofText (Spelling.keyed.text p) = ⟨"", p⟩ := by
  have hplain : '=' ∉ "Data Source".toList ∧ ';' ∉ "Data Source".toList ∧
      ':' ∉ "Data Source".toList := by decide
  have hkey : ConnectionInfo.IsPair ("Data Source", p) := ⟨hplain, hp.semicolon⟩
  have hpair : ∀ q ∈ [("Data Source", p)], ConnectionInfo.IsPair q := by simpa using hkey
  have hmark : ∀ q ∈ [("Data Source", p)], ¬ ConnectionInfo.HoldsMark q.2 := by
    simpa using hp.mark
  have htext : Spelling.keyed.text p = ConnectionInfo.pairsText [("Data Source", p)] := by
    rw [← String.toList_inj, ConnectionInfo.toList_pairsText, List.map_singleton,
      ConnectionInfo.toList_pairText, toList_text]
    simp [Spelling.lead]
  have hsmall : String.ofList ((Text.trimmed "Data Source".toList).map Char.toLower) =
      "data source" := by decide
  have hlooked : ConnectionInfo.looked ("Data Source".toList, p.toList) = ("data source", p) :=
    Prod.ext hsmall hp.trimmed
  rw [htext, ConnectionInfo.ofText_pairsText (by simp) hpair hmark,
    ConnectionInfo.pairs_pairsText (by simp) hpair, List.map_singleton, hlooked]
  simp [ConnectionInfo.firstOf, ConnectionInfo.ownerKeys, ConnectionInfo.databaseKeys]

/-- The name is the path in a spelling that is no URL. -/
theorem ofText_text (hp : IsPath p) {s : Spelling}
    (h : ¬ Spelling.url.lead.toList <+: (s.text p).toList) :
    ConnectionInfo.ofText (s.text p) = ⟨"", p⟩ := by
  have hcut : cutWord? "://".toList (Text.trimmed (s.text p).toList) = none := by
    rw [trimmed_text hp, cutWord?_eq_none_iff]
    exact not_holdsMark_text hp h
  cases s with
  | bare =>
    have hscheme : ¬ "sqlite:".toList.isPrefixOf p.toList = true :=
      mt List.isPrefixOf_iff_prefix.1 hp.scheme
    have htext : Spelling.bare.text p = p := String.empty_append
    rw [htext] at hcut ⊢
    rw [ConnectionInfo.ofText, hcut, hp.trimmed_toList]
    show (if _ then _ else if _ then _ else _) = _
    rw [if_neg hscheme, if_neg hp.equals, String.ofList_toList]
  | scheme =>
    have htext : (Spelling.scheme.text p).toList = "sqlite:".toList ++ p.toList := toList_text _ _
    have hscheme : "sqlite:".toList.isPrefixOf ("sqlite:".toList ++ p.toList) = true :=
      List.isPrefixOf_iff_prefix.2 (List.prefix_append _ _)
    have hdrop : ("sqlite:".toList ++ p.toList).drop "sqlite:".length = p.toList := List.drop_left
    rw [ConnectionInfo.ofText, hcut, trimmed_text hp, htext]
    show (if _ then ConnectionInfo.mk _ _ else _) = _
    rw [if_pos hscheme, hdrop, String.ofList_toList]
  | url => exact absurd (toList_text .url p ▸ List.prefix_append _ _) h
  | keyed => exact ofText_keyed hp

/-- **The spellings of a path agree unless they start with `sqlite://`.** Such a text is read as a
URL: the name is what follows the first slash behind the scheme, and never the path. Every other
text has the path for its name, and no owner. What is opened is the path itself in each spelling,
up to percent codes; only behind the scheme alone a path with two slashes at its start spells
another one. -/
theorem spellings_name_iff (hp : IsPath p) (s : Spelling) :
    (ConnectionInfo.ofText (s.text p) = ⟨"", p⟩ ↔
      ¬ Spelling.url.lead.toList <+: (s.text p).toList) ∧
    (∀ q, s.text p = Spelling.url.text q →
      ConnectionInfo.ofText (s.text p) = ⟨"", behindSlash q⟩) ∧
    ((s = .scheme → ¬ "//".toList <+: p.toList) →
      LeadsTo (s.text p) p ∧ ('%' ∉ p.toList → path? (location (s.text p)) = some p)) := by
  refine ⟨⟨fun hname hstart => ?_, ofText_text hp⟩, fun q => ofText_url hp, fun hs => ?_⟩
  · obtain ⟨rest, hrest⟩ := hstart
    have htext : s.text p = Spelling.url.text (.ofList rest) := by
      rw [← String.toList_inj, ← hrest, toList_text, String.toList_ofList]
    rw [ofText_url hp htext] at hname
    exact behindSlash_ne hp htext (congrArg ConnectionInfo.databaseName hname)
  · have hleads := leads_text hp s hs
    refine ⟨hleads, fun hpercent => ?_⟩
    rw [hleads.path, Percent.decode?_of_not_mem hpercent, String.ofList_toList]

private theorem isPath_data : IsPath "data.db" where
  nonempty := by decide
  trimmed := by decide
  equals := by decide
  semicolon := by decide
  question := by decide
  atSign := by decide
  mark := not_mark_of_not_mem (by decide)
  scheme := by decide

theorem spellings_name_iff_data :
    IsPath "data.db" ∧
    (ConnectionInfo.ofText (Spelling.scheme.text "data.db") = ⟨"", "data.db"⟩ ↔
      ¬ Spelling.url.lead.toList <+: (Spelling.scheme.text "data.db").toList) ∧
    (∀ q, Spelling.scheme.text "data.db" = Spelling.url.text q →
      ConnectionInfo.ofText (Spelling.scheme.text "data.db") = ⟨"", behindSlash q⟩) ∧
    ((Spelling.scheme = .scheme → ¬ "//".toList <+: "data.db".toList) →
      LeadsTo (Spelling.scheme.text "data.db") "data.db" ∧ ('%' ∉ "data.db".toList →
        path? (location (Spelling.scheme.text "data.db")) = some "data.db")) :=
  ⟨isPath_data, spellings_name_iff isPath_data .scheme⟩

/-- The URL of a file in the working directory leads to the file, and its name is lost. -/
theorem url_loses_path :
    IsPath "data.db" ∧ Spelling.url.text "data.db" = "sqlite://data.db" ∧
      path? (location "sqlite://data.db") = some "data.db" ∧
      ConnectionInfo.ofText "sqlite://data.db" = ⟨"", ""⟩ ∧
      ConnectionInfo.ofText "sqlite://data.db" ≠ ⟨"", "data.db"⟩ := by
  have hname : ConnectionInfo.ofText "sqlite://data.db" = ⟨"", ""⟩ := by decide
  refine ⟨isPath_data, by decide, by decide, hname, ?_⟩
  rw [hname]
  decide

end Polydialect.Sqlite
