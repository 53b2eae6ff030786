import Mathlib
import SitePreview.Proofs.Exchange
import SitePreview.Proofs.HeadLines
import SitePreview.Proofs.ServedFiles

namespace SitePreview

def headEnd : Bytes := [13, 10, 13, 10]

/-- Octets are cut at the first blank line in them. -/
structure CutAtHeadEnd (octets front behind : Bytes) : Prop where
  whole : octets = front ++ headEnd ++ behind
  first : ∀ before after, octets = before ++ headEnd ++ after → front.length ≤ before.length

namespace CutAtHeadEnd

variable {octets front behind run : Bytes}

theorem start (behind : Bytes) : CutAtHeadEnd (headEnd ++ behind) [] behind :=
  ⟨rfl, fun _ _ _ => Nat.zero_le _⟩

theorem append_left (hrun : 13 ∉ run) (h : CutAtHeadEnd octets front behind) :
    CutAtHeadEnd (run ++ octets) (run ++ front) behind := by
  refine ⟨by simp [h.whole], fun before after hsame => ?_⟩
  rw [List.append_assoc] at hsame
  rcases List.append_eq_append_iff.mp hsame with ⟨more, rfl, hmore⟩ | ⟨more, rfl, hmore⟩
  · have := h.first more after (by rw [hmore, List.append_assoc])
    simp only [List.length_append]
    omega
  · cases more with
    | nil =>
      have := h.first [] after (by simpa using hmore.symm)
      simp only [List.length_append, List.length_nil] at this ⊢
      omega
    | cons octet more =>
      have hoctet : (13 : UInt8) = octet := (List.cons.inj hmore).1
      exact absurd (by simp [← hoctet]) hrun

theorem cons_lineEnd (hnext : octets.head? ≠ some 13) (h : CutAtHeadEnd octets front behind) :
    CutAtHeadEnd (13 :: 10 :: octets) (13 :: 10 :: front) behind := by
  refine ⟨by simp [h.whole], fun before after hsame => ?_⟩
  match before with
  | [] =>
    simp only [headEnd, List.nil_append, List.cons_append, List.cons.injEq, true_and] at hsame
    exact absurd (by rw [hsame]; rfl) hnext
  | [_] =>
    simp only [headEnd, List.cons_append, List.nil_append, List.cons.injEq] at hsame
    exact absurd hsame.2.1 (by decide)
  | _ :: _ :: before =>
    simp only [List.cons_append, List.cons.injEq] at hsame
    have := h.first before after hsame.2.2
    simp only [List.length_cons]
    omega

/-- Lines that are not empty, between line ends, come before the first blank line. -/
theorem of_lines {lines : List Bytes} (h : ∀ line ∈ lines, line ≠ [] ∧ 13 ∉ line) (hne : lines ≠ [])
    (behind : Bytes) : CutAtHeadEnd ([13, 10].intercalate lines ++ headEnd ++ behind)
      ([13, 10].intercalate lines) behind := by
  induction lines with
  | nil => exact absurd rfl hne
  | cons line lines ih =>
    obtain ⟨hline, hlines⟩ := List.forall_mem_cons.mp h
    cases lines with
    | nil => simpa using (start behind).append_left hline.2
    | cons next lines =>
      obtain ⟨hnext, hplain⟩ := hlines next List.mem_cons_self
      obtain ⟨octet, rest, rfl⟩ := List.exists_cons_of_ne_nil hnext
      have hoctet : octet ≠ 13 := fun heq => hplain (by simp [heq])
      have hlater := (ih hlines (by simp)).cons_lineEnd (by
        cases lines <;> simp [List.intercalate, List.intersperse, hoctet])
      simpa [List.intercalate, List.intersperse] using hlater.append_left hline.2

end CutAtHeadEnd

theorem toNat_of_mem_ofNat {n : Nat} {c : Char} (h : c ∈ Text.ofNat n) :
    48 ≤ c.toNat ∧ c.toNat ≤ 57 := by
  have hdigit : c.isDigit = true := Nat.isDigit_of_mem_toDigits (by decide) (by decide) h
  simpa [Char.isDigit, UInt32.le_iff_toNat_le] using hdigit

/-- A text that can stand in a line of a head. -/
def IsHeadText (s : Text) : Prop := ∀ c ∈ s, 32 ≤ c.toNat ∧ c.toNat < 127

namespace IsHeadText

variable {s t : Text}

theorem of_all (h : (s.all fun c => decide (32 ≤ c.toNat ∧ c.toNat < 127)) = true) : IsHeadText s :=
  fun c hc => of_decide_eq_true (List.all_eq_true.mp h c hc)

theorem append (hs : IsHeadText s) (ht : IsHeadText t) : IsHeadText (s ++ t) :=
  List.forall_mem_append.mpr ⟨hs, ht⟩

theorem ofNat (n : Nat) : IsHeadText (Text.ofNat n) := by
  intro c hc
  have hdigit := toNat_of_mem_ofNat hc
  omega

theorem decode_encode (h : IsHeadText s) : Latin.decode (Latin.encode s) = s :=
  Latin.decode_encode fun c hc => Nat.lt_trans (h c hc).2 (by decide)

theorem not_mem_encode (h : IsHeadText s) {octet : UInt8} (hoctet : octet.toNat < 32) :
    octet ∉ Latin.encode s := by
  intro hmem
  obtain ⟨c, hc, rfl⟩ := List.mem_map.mp hmem
  obtain ⟨hlow, hhigh⟩ := h c hc
  rw [UInt8.toNat_ofNat_of_lt' (Nat.lt_trans hhigh (by decide))] at hoctet
  omega

end IsHeadText

namespace Response

/-- The media types that responses have. -/
def knownTypes : List Text := plainText :: defaultMediaType :: mediaTypes.map Prod.snd

def statusLine (r : Response) : Text :=
  "HTTP/1.1 ".toList ++ Text.ofNat r.status ++ ' ' :: phrase r.status

def fields (r : Response) : List (Text × Text) := [
  ("Content-Type".toList, r.mediaType),
  ("Content-Length".toList, Text.ofNat r.body.length),
  ("Connection".toList, "close".toList)]

def fieldLine (field : Text × Text) : Text := field.1 ++ ": ".toList ++ field.2

def headLines (r : Response) : List Text := r.statusLine :: r.fields.map fieldLine

/-- The octets of the head, without the blank line that ends it. -/
def front (r : Response) : Bytes := [13, 10].intercalate (r.headLines.map Latin.encode)

theorem isHeadText_phrase (status : Nat) : IsHeadText (phrase status) := by
  unfold phrase
  split <;> exact .of_all (by decide)

theorem of_mem_knownTypes : ∀ kind ∈ knownTypes, IsHeadText kind ∧ kind.trim = kind := by
  have hall : (knownTypes.all fun kind =>
      (kind.all fun c => decide (32 ≤ c.toNat ∧ c.toNat < 127)) && decide (kind.trim = kind)) = true := by
    decide +kernel
  intro kind hkind
  have hboth := List.all_eq_true.mp hall kind hkind
  rw [Bool.and_eq_true, decide_eq_true_eq] at hboth
  exact ⟨.of_all hboth.1, hboth.2⟩

theorem isHeadText_statusLine (r : Response) : IsHeadText r.statusLine := by
  have hspace : IsHeadText (' ' :: phrase r.status) :=
    .append (s := [' ']) (.of_all (by decide)) (isHeadText_phrase r.status)
  exact .append (.append (.of_all (by decide)) (.ofNat r.status)) hspace

theorem trim_ofNat (n : Nat) : (Text.ofNat n).trim = Text.ofNat n := by
  refine Text.trim_of_filled fun c hc => ?_
  have hdigit := toNat_of_mem_ofNat hc
  simp only [isBlank, isBlankCode, Bool.or_eq_false_iff, Bool.and_eq_false_imp, decide_eq_true_eq,
    decide_eq_false_iff_not, beq_eq_false_iff_ne]
  omega

theorem fields_lower (r : Response) : r.fields.map (fun field => (field.1.trim.lower, field.2)) =
    [("content-type".toList, r.mediaType),
      ("content-length".toList, (toString r.body.length).toList),
      ("connection".toList, "close".toList)] := by
  have hkind : Text.lower (Text.trim "Content-Type".toList) = "content-type".toList := by
    decide +kernel
  have hlength : Text.lower (Text.trim "Content-Length".toList) = "content-length".toList := by
    decide +kernel
  have hclose : Text.lower (Text.trim "Connection".toList) = "connection".toList := by
    decide +kernel
  have hdigits : (toString r.body.length).toList = Text.ofNat r.body.length := by
    simp [Text.ofNat, Nat.repr]
  simp only [fields, List.map_cons, List.map_nil, hkind, hlength, hclose, hdigits]

/-- No header of a response has a colon or blank ends in it that it is not meant to have. -/
theorem of_mem_fields {r : Response} (h : r.mediaType ∈ knownTypes) :
    ∀ field ∈ r.fields, ':' ∉ field.1 ∧ IsHeadText (fieldLine field) ∧ field.2.trim = field.2 := by
  have hnamed {name value : Text} (hname : IsHeadText name) (hvalue : IsHeadText value) :
      IsHeadText (fieldLine (name, value)) := .append (.append hname (.of_all (by decide))) hvalue
  simp only [fields, List.forall_mem_cons]
  refine ⟨⟨by decide, ?_, ?_⟩, ⟨by decide, ?_, ?_⟩, ⟨by decide, ?_, ?_⟩, by simp⟩
  · exact hnamed (.of_all (by decide)) (of_mem_knownTypes r.mediaType h).1
  · exact (of_mem_knownTypes r.mediaType h).2
  · exact hnamed (.of_all (by decide)) (.ofNat r.body.length)
  · exact trim_ofNat r.body.length
  · exact .of_all (by decide)
  · decide

theorem of_mem_headLines {r : Response} (h : r.mediaType ∈ knownTypes) :
    ∀ line ∈ r.headLines, line ≠ [] ∧ IsHeadText line := by
  intro line hline
  rcases List.mem_cons.mp hline with rfl | hline
  · exact ⟨List.append_ne_nil_of_right_ne_nil _ (List.cons_ne_nil _ _), isHeadText_statusLine r⟩
  · obtain ⟨field, hfield, rfl⟩ := List.mem_map.mp hline
    exact ⟨by simp [fieldLine], (of_mem_fields h field hfield).2.1⟩

theorem encode_headText (r : Response) : Latin.encode r.headText = r.front ++ headEnd := by
  have hlineEnd : Latin.encode lineEnd = [13, 10] := rfl
  have hkind : "Content-Type: ".toList = "Content-Type".toList ++ ": ".toList := by decide
  have hlength : "Content-Length: ".toList = "Content-Length".toList ++ ": ".toList := by decide
  have hclose : "Connection: close".toList = "Connection".toList ++ ": ".toList ++ "close".toList := by
    decide
  -- The texts are variables here, or they would be taken apart into characters.
  have hlines (a b c d e f : Text) :
      Latin.encode (a ++ lineEnd ++ b ++ c ++ lineEnd ++ d ++ e ++ lineEnd ++ f ++ lineEnd ++ lineEnd) =
        [13, 10].intercalate ([a, b ++ c, d ++ e, f].map Latin.encode) ++ headEnd := by
    simp [Latin.encode_append, hlineEnd, headEnd, List.intercalate, List.intersperse]
  unfold headText
  rw [hkind, hlength, hclose]
  exact hlines r.statusLine _ _ _ _ _

theorem render_eq (r : Response) (headOnly : Bool) :
    r.render headOnly = r.front ++ headEnd ++ if headOnly then [] else r.body := by
  rw [render, encode_headText]

theorem render_cut {r : Response} (h : r.mediaType ∈ knownTypes) :
    CutAtHeadEnd (r.render false) r.front r.body := by
  rw [render_eq]
  refine .of_lines (fun line hline => ?_) (by simp [headLines]) r.body
  obtain ⟨text, htext, rfl⟩ := List.mem_map.mp hline
  obtain ⟨hne, hplain⟩ := of_mem_headLines h text htext
  exact ⟨by simpa [Latin.encode] using hne, hplain.not_mem_encode (by decide)⟩

theorem mediaTypeOf_mem (path : Text) : mediaTypeOf path ∈ knownTypes := by
  unfold mediaTypeOf knownTypes
  cases hfound : mediaTypes.lookup (Path.extension path).lower with
  | none => simp
  | some kind =>
    obtain ⟨front, back, hrows, -⟩ := List.lookup_eq_some_iff.mp hfound
    simp [hrows]

end Response

theorem Routed.response_mediaType_mem (disk : Disk) (r : Routed) :
    (r.response disk).mediaType ∈ Response.knownTypes := by
  have hplain : Response.plainText ∈ Response.knownTypes := List.mem_cons_self
  unfold Routed.response Routed.resolved
  cases hresolve : resolve disk r.config r.location r.path with
  | error fault => exact hplain
  | ok outcome =>
    cases outcome with
    | proxy target => exact hplain
    | forbidden => exact hplain
    | notFound inDirectory => cases inDirectory <;> exact hplain
    | serve file mediaType =>
      obtain ⟨-, -, -, -, rfl⟩ := resolve_serve hresolve
      simp only [Resolved.ofOutcome, Fetch.response]
      cases disk.contentOf file with
      | error fault => exact hplain
      | ok content => exact Response.mediaTypeOf_mem file

theorem responseTo_mediaType_mem {disk : Disk} {config : Option ServerConfig} {target : Text}
    {r : Response} (h : responseTo disk config target = .ok r) : r.mediaType ∈ Response.knownTypes := by
  cases config with
  | none =>
    cases h
    exact List.mem_cons_self
  | some config =>
    obtain ⟨path, -, rfl⟩ := exceptMap_eq_ok.mp h
    exact Routed.response_mediaType_mem disk _

namespace RequestHead

theorem linesOf_lineEnd {line : Bytes} (h : newline ∉ line) (rest : Bytes) :
    linesOf (line ++ [13, 10] ++ rest) = (line ++ [13, 10]) :: linesOf rest := by
  have hfront : newline ∉ line ++ [13] := by simpa [newline] using h
  simpa [newline] using linesOf_ended hfront rest

/-- Lines between line ends are told apart, each with its end if it has one. -/
theorem forall₂_linesOf {α : Type} {R : Bytes → α → Prop} {lines : List Bytes} {values : List α}
    (h : List.Forall₂ (fun line v => (line ≠ [] ∧ newline ∉ line) ∧ R line v ∧ R (line ++ [13, 10]) v)
      lines values) : List.Forall₂ R (linesOf ([13, 10].intercalate lines)) values := by
  induction h with
  | nil => exact .nil
  | @cons line v lines values hline hlines ih =>
    obtain ⟨⟨hne, hnewline⟩, hopen, hended⟩ := hline
    cases hlines with
    | nil =>
      rw [List.intercalate_singleton, linesOf_open hnewline hne]
      exact .cons hopen .nil
    | cons hnext hlater =>
      rw [List.intercalate_cons_cons, linesOf_lineEnd hnewline]
      exact .cons hended ih

theorem isHeader_encode {name value : Text} (hname : ':' ∉ name)
    (hplain : IsHeadText (Response.fieldLine (name, value))) (hvalue : value.trim = value)
    (ending : Bytes) (hending : ∀ c ∈ Latin.decode ending, isBlank c = true) :
    IsHeader (Latin.encode (Response.fieldLine (name, value)) ++ ending) name.trim.lower value := by
  have hdecode : Latin.decode (Latin.encode (Response.fieldLine (name, value)) ++ ending) =
      name ++ ':' :: ([' '] ++ value ++ Latin.decode ending) := by
    rw [Latin.decode_append, hplain.decode_encode]
    simp [Response.fieldLine]
  refine ⟨name, [' '] ++ value ++ Latin.decode ending, hname, .inl hdecode, rfl, ?_⟩
  rw [Text.trim_append (by simp [isBlank, isBlankCode]) hending, hvalue]

end RequestHead

namespace Response

/-- The lines behind the status line give each header its value. -/
theorem front_fields {r : Response} (h : r.mediaType ∈ knownTypes) :
    List.Forall₂ (fun line field => RequestHead.IsHeader line field.1 field.2)
      (RequestHead.linesOf r.front).tail (r.fields.map fun field => (field.1.trim.lower, field.2)) := by
  have hstatus : RequestHead.newline ∉ Latin.encode r.statusLine :=
    (isHeadText_statusLine r).not_mem_encode (by decide)
  have hfront : r.front = Latin.encode r.statusLine ++ [13, 10] ++
      [13, 10].intercalate (r.fields.map fun field => Latin.encode (fieldLine field)) := by
    simp [front, headLines, fields, List.intercalate_cons_cons]
  rw [hfront, RequestHead.linesOf_lineEnd hstatus, List.tail_cons]
  refine RequestHead.forall₂_linesOf (List.forall₂_map_left_iff.mpr ?_)
  refine List.forall₂_map_right_iff.mpr (List.forall₂_same.mpr fun field hfield => ?_)
  obtain ⟨hcolon, hplain, htrim⟩ := of_mem_fields h field hfield
  have hline : Latin.encode (fieldLine field) ≠ [] ∧
      RequestHead.newline ∉ Latin.encode (fieldLine field) :=
    ⟨by simp [Latin.encode, fieldLine], hplain.not_mem_encode (by decide)⟩
  have hopen := RequestHead.isHeader_encode hcolon hplain htrim [] (by simp [Latin.decode])
  rw [List.append_nil] at hopen
  have hlineEnd : ∀ c ∈ Latin.decode [13, 10], isBlank c = true := by
    simp [Latin.decode, isBlank, isBlankCode]
  exact ⟨hline, hopen, RequestHead.isHeader_encode hcolon hplain htrim _ hlineEnd⟩

end Response

namespace RequestHead

variable {octets : Bytes} {wire target : Text}

/-- Octets begin with a request line, and no line of the head is too long. -/
def Asks (octets : Bytes) (wire target : Text) : Prop :=
  ∃ first lines, linesOf octets = first :: lines ∧ IsRequestLine first wire target ∧
    ∀ line ∈ first :: fieldLines headerLineLimit lines, ¬Exceeds defaultLineLimit line

theorem Asks.read (h : Asks octets wire target) : ∃ headers rest,
    read defaultLineLimit true octets = .head ⟨Text.upper wire, target, headers⟩ rest := by
  obtain ⟨first, lines, hlines, hfirst, hfits⟩ := h
  obtain ⟨headers, rest, -, hread, -⟩ := read_head_of_fitting hlines hfirst hfits
  exact ⟨headers, rest, hread⟩

theorem IsRequestLine.toNat_lt {line : Bytes} (h : IsRequestLine line wire target) :
    ∀ c ∈ wire, c.toNat < 256 := by
  obtain ⟨version, hparts, -⟩ := h
  intro c hc
  have hpart : wire ∈ partsAt ' ' (Latin.decode line).trim := by
    rw [partsAt_eq_splitOn, hparts]
    exact List.mem_cons_self
  have htrim := (sublist_of_mem_partsAt hpart).trans (Text.trim_sublist _)
  exact Latin.toNat_lt_of_mem_decode (htrim.subset hc)

/-- Only the head is asked for just by the method HEAD, in any letter case. -/
theorem Asks.isHeadOnly (h : Asks octets wire target) :
    isHeadOnly (Text.upper wire) = true ↔ wire.map Char.toUpper = "HEAD".toList := by
  obtain ⟨first, -, -, hfirst, -⟩ := h
  rw [SitePreview.isHeadOnly, beq_iff_eq]
  refine Text.upper_eq_iff hfirst.toNat_lt ?_
  have hall : ("HEAD".toList.all fun d => decide (65 ≤ d.toNat ∧ d.toNat ≤ 72)) = true := by decide
  exact fun d hd => of_decide_eq_true (List.all_eq_true.mp hall d hd)

end RequestHead

theorem exchange_of_asks {s : Session} {chunks : List Bytes} {wire target : Text} {r : Response}
    (hasks : RequestHead.Asks chunks.flatten wire target)
    (hr : responseTo s.disk s.server.config target = .ok r) :
    ((s.exchange chunks).connection s.nextConnection).sent =
      r.render (isHeadOnly (Text.upper wire)) := by
  obtain ⟨c, hlookup, -, -, -, hdone⟩ := exchange_heard s chunks
  obtain ⟨headers, rest, hread⟩ := hasks.read
  have hconfig : (s.accept [] false).server.config = s.server.config := rfl
  simp only [Server.handle, hread, Server.handleHead_handled, Server.handledHead, hconfig, hr,
    Handled.finished.injEq] at hdone
  rw [Session.connection_eq hlookup, ← hdone.1]

/-- Every response that a target has is sent so that its first blank line is where its body begins, and
with the length of its body in the head. Asked for with HEAD, the head alone is sent. -/
theorem exchange_framing {s : Session} {method target : Text} {step : RequestStep}
    (hdispatch : s.server.dispatch s.disk method target = .ok step) :
    ∃ front,
      List.Forall₂ (fun line field => RequestHead.IsHeader line field.1 field.2)
        (RequestHead.linesOf front).tail
        [("content-type".toList, step.response.mediaType),
          ("content-length".toList, (toString step.response.body.length).toList),
          ("connection".toList, "close".toList)] ∧
      ∀ chunks wire, RequestHead.Asks chunks.flatten wire target →
        (wire.map Char.toUpper ≠ "HEAD".toList →
          CutAtHeadEnd ((s.exchange chunks).connection s.nextConnection).sent front
            step.response.body) ∧
        (wire.map Char.toUpper = "HEAD".toList →
          ((s.exchange chunks).connection s.nextConnection).sent = front ++ headEnd) := by
  have hresponse : responseTo s.disk s.server.config target = .ok step.response := by
    rw [← Server.dispatch_response s.disk method target s.server, hdispatch]
    rfl
  have hkind := responseTo_mediaType_mem hresponse
  refine ⟨step.response.front, ?_, fun chunks wire hasks => ?_⟩
  · rw [← Response.fields_lower]
    exact Response.front_fields hkind
  · rw [exchange_of_asks hasks hresponse]
    constructor
    · intro hother
      have hwhole : isHeadOnly (Text.upper wire) = false := by
        rw [Bool.eq_false_iff, ne_eq, hasks.isHeadOnly]
        exact hother
      rw [hwhole]
      exact Response.render_cut hkind
    · intro hhead
      rw [hasks.isHeadOnly.mpr hhead, Response.render_eq]
      simp

/-- A server whose one file is made of blank lines. -/
def blankSite : Session where
  platform := Platform.plain
  disk := .ofTop (.directory [("a.txt".toList, .file (headEnd ++ headEnd))])
  server := {
    settings := {}
    listening := true
    config := some { documentRoot := ['/'], indexFiles := defaultIndexFiles, baseDir := ['/'] } }
  clock := []

theorem exchange_framing_blankSite : ∃ step front,
    blankSite.server.dispatch blankSite.disk "get".toList "/a.txt".toList = .ok step ∧
      step.response = ⟨200, "text/plain".toList, headEnd ++ headEnd⟩ ∧
      List.Forall₂ (fun line field => RequestHead.IsHeader line field.1 field.2)
        (RequestHead.linesOf front).tail
        [("content-type".toList, "text/plain".toList), ("content-length".toList, "8".toList),
          ("connection".toList, "close".toList)] ∧
      CutAtHeadEnd ((blankSite.exchange [Latin.encode "get /a.txt HTTP/1.1\r\n\r\n".toList]).connection
        blankSite.nextConnection).sent front (headEnd ++ headEnd) ∧
      ((blankSite.exchange [Latin.encode "hEaD /a.txt HTTP/1.1\r\n\r\n".toList]).connection
        blankSite.nextConnection).sent = front ++ headEnd := by
  have hresponse : (blankSite.server.dispatch blankSite.disk "get".toList "/a.txt".toList).map
      RequestStep.response = .ok ⟨200, "text/plain".toList, headEnd ++ headEnd⟩ := by cbv
  obtain ⟨step, hdispatch, hstep⟩ := exceptMap_eq_ok.mp hresponse
  have hget : RequestHead.Asks (List.flatten [Latin.encode "get /a.txt HTTP/1.1\r\n\r\n".toList])
      "get".toList "/a.txt".toList := by
    refine ⟨Latin.encode "get /a.txt HTTP/1.1\r\n".toList, [[13, 10]], by decide +kernel,
      ⟨"HTTP/1.1".toList, by decide +kernel, by decide +kernel⟩, ?_⟩
    unfold RequestHead.Exceeds
    decide +kernel
  have hhead : RequestHead.Asks (List.flatten [Latin.encode "hEaD /a.txt HTTP/1.1\r\n\r\n".toList])
      "hEaD".toList "/a.txt".toList := by
    refine ⟨Latin.encode "hEaD /a.txt HTTP/1.1\r\n".toList, [[13, 10]], by decide +kernel,
      ⟨"HTTP/1.1".toList, by decide +kernel, by decide +kernel⟩, ?_⟩
    unfold RequestHead.Exceeds
    decide +kernel
  obtain ⟨front, hfields, hsent⟩ := exchange_framing hdispatch
  have hcut := (hsent _ _ hget).1 (by decide +kernel)
  rw [hstep] at hcut hfields
  exact ⟨step, front, hdispatch, hstep, hfields, hcut, (hsent _ _ hhead).2 (by decide +kernel)⟩

end SitePreview
