import ApiDocs.Proofs.Render.Outcome

/-!
The tags of a page. A page is put together from the fixed texts of its template and from values (`shown_pieces`); a value
between tags brings no sign of a tag, and one in an attribute does not end it (`Piece.IsClean`). So a reader of the page
meets the tags of the template and no others: they tell how many endpoints there are, how many parameters and samples each
of them has, and whether its response type has a name (`render_html_tags`).
-/
namespace ApiDocs

namespace Html

/-! ### Reading tags -/

/-- Where a reader of a page stands: between tags, behind a sign that may begin a tag, in a tag of which something was
    read, or in a quoted value of an attribute. -/
inductive Reading where
  | text
  | opened
  | tag (seen : Text)
  | value (quote : Nat) (seen : Text)
  deriving DecidableEq

/-- A sign that makes a tag of the angle in front of it: a letter, a slash or an exclamation mark. -/
def beginsTag (c : Nat) : Bool := (0x41 ≤ c && c ≤ 0x5A) || (0x61 ≤ c && c ≤ 0x7A) || c == 0x2F || c == 0x21

/-- One sign is read; a tag is handed out where it ends, without the values of its attributes. -/
def Reading.next : Reading → Nat → Reading × List Text
  | .text, c => (if c = 0x3C then .opened else .text,[])
  | .opened, c => (if beginsTag c then .tag [c] else if c = 0x3C then .opened else .text,[])
  | .tag seen, c =>
    if c = 0x3E then (.text,[seen])
    else if c = 0x22 ∨ c = 0x27 then (.value c seen,[])
    else (.tag (seen ++ [c]),[])
  | .value quote seen, c => (if c = quote then .tag seen else .value quote seen,[])

/-- Where a reader stands after a text, and the tags that were met. -/
def read (r : Reading) : Text → Reading × List Text
  | [] => (r,[])
  | c :: rest => ((read (r.next c).1 rest).1,(r.next c).2 ++ (read (r.next c).1 rest).2)

/-- The tags of a text, without the values of their attributes. -/
def tags (t : Text) : List Text := (read .text t).2

theorem read_append (r : Reading) (t u : Text) :
    read r (t ++ u) = ((read (read r t).1 u).1,(read r t).2 ++ (read (read r t).1 u).2) := by
  induction t generalizing r with
  | nil => rfl
  | cons c rest ih => simp [read,ih]

/-- Between tags nothing is a tag that has no angle. -/
theorem read_text {t : Text} (plain : 0x3C ∉ t) : read .text t = (.text,[]) := by
  induction t with
  | nil => rfl
  | cons c rest ih =>
    rw [List.mem_cons,not_or] at plain
    simp [read,Reading.next,Ne.symm plain.1,ih plain.2]

/-- A quoted value goes on until its quote. -/
theorem read_value {quote : Nat} {t : Text} (plain : quote ∉ t) (seen : Text) :
    read (.value quote seen) t = (.value quote seen,[]) := by
  induction t with
  | nil => rfl
  | cons c rest ih =>
    rw [List.mem_cons,not_or] at plain
    simp [read,Reading.next,Ne.symm plain.1,ih plain.2]

/-! ### The template -/

/-- A piece of a page: a text of the template, a text between tags, the text of an attribute between quotation marks, or
    a body. -/
inductive Piece where
  | markup (t : Text)
  | content (t : Text)
  | quoted (t : Text)
  | body (v : Value)

/-- The texts of the template. -/
def template : List Text :=
  ["<!DOCTYPE html>\n<html lang=\"en\">\n<head>\n  <meta charset=\"utf-8\">\n",
    "  <title>API documentation</title>\n</head>\n<body>\n","  <h1>API documentation</h1>\n  ",
    "\n  <section id=\"","\">\n    <h2><code>","</code> ","</h2>\n    <p>","</p>\n    <p>Handler: <code>","</code>",
    ", response: <code>","</p>\n    ","\n    <table>\n      <tr><th>Name</th><th>Type</th><th>Required</th></tr>\n      ",
    "\n      <tr><td>","</td><td>","</td></tr>\n      ","\n    </table>\n    ","\n    ","\n    <h3>",
    "</h3>\n    <pre>","</pre>\n    ","\n  </section>\n  ","\n</body>\n</html>"]

namespace Piece

/-- The text of a piece. -/
def shown : Piece → Text
  | markup t => t
  | content t => escape t
  | quoted t => escape t
  | body v => script v

/-- The text of the template in a piece. -/
def fixed : Piece → Text
  | markup t => t
  | _ => []

/-- What is not of the template has no angle in it, nor has the text of an attribute a quotation mark. -/
def IsClean : Piece → Prop
  | markup t => t ∈ template
  | content t => 0x3C ∉ escape t ∧ 0x3E ∉ escape t
  | quoted t => 0x3C ∉ escape t ∧ 0x3E ∉ escape t ∧ 0x22 ∉ escape t
  | body v => 0x3C ∉ script v ∧ 0x3E ∉ script v

end Piece

/-- Angles and quotes do not get through an escape. -/
theorem escapePoint_clean (x : Nat) : ∀ c ∈ ([0x3C,0x3E,0x22,0x27] : Text), c ∉ escapePoint x := by
  unfold escapePoint
  split_ifs with amp less greater double single
  iterate 5 decide
  simp [Ne.symm less,Ne.symm greater,Ne.symm double,Ne.symm single]

theorem not_mem_escape {c : Nat} (special : c ∈ ([0x3C,0x3E,0x22,0x27] : Text)) (t : Text) : c ∉ escape t := by
  intro member
  obtain ⟨x,_,inside⟩ := List.mem_flatMap.mp member
  exact escapePoint_clean x c special inside

/-- Angles do not get into a body. -/
theorem scriptPoint_clean (x : Nat) : ∀ c ∈ ([0x3C,0x3E] : Text), c ∉ scriptPoint x := by
  unfold scriptPoint
  split_ifs with special
  · rcases special with rfl | rfl | rfl | rfl <;> decide
  · simp only [not_or] at special
    simp [Ne.symm special.2.1,Ne.symm special.2.2.1]

theorem not_mem_script {c : Nat} (special : c ∈ ([0x3C,0x3E] : Text)) (v : Value) : c ∉ script v := by
  intro member
  obtain ⟨x,_,inside⟩ := List.mem_flatMap.mp member
  exact scriptPoint_clean x c special inside

namespace Piece

@[simp] theorem isClean_markup (t : Text) : (markup t).IsClean ↔ t ∈ template := Iff.rfl

@[simp] theorem isClean_content (t : Text) : (content t).IsClean :=
  ⟨not_mem_escape (by decide) t,not_mem_escape (by decide) t⟩

@[simp] theorem isClean_quoted (t : Text) : (quoted t).IsClean :=
  ⟨not_mem_escape (by decide) t,not_mem_escape (by decide) t,not_mem_escape (by decide) t⟩

@[simp] theorem isClean_body (v : Value) : (body v).IsClean := ⟨not_mem_script (by decide) v,not_mem_script (by decide) v⟩

end Piece

/-- The reader stands in quotation marks. -/
def Reading.inQuotes : Reading → Bool
  | value quote _ => quote = 0x22
  | _ => false

theorem Reading.eq_of_inQuotes {r : Reading} (inside : r.inQuotes = true) : ∃ seen, r = .value 0x22 seen := by
  cases r with
  | value quote seen => exact ⟨seen,by rw [of_decide_eq_true inside]⟩
  | _ => cases inside

/-- The reader stands between tags where a text or a body comes, and in quotation marks where the text of an attribute
    does. -/
def inPlace (r : Reading) : List Piece → Bool
  | [] => true
  | .markup t :: rest => inPlace (read r t).1 rest
  | .quoted _ :: rest => r.inQuotes && inPlace r rest
  | _ :: rest => r = .text && inPlace r rest

/-- Values in their places are of no account for the tags. -/
theorem read_shown {r : Reading} {ps : List Piece} (placed : inPlace r ps = true) :
    read r (ps.flatMap Piece.shown) = read r (ps.flatMap Piece.fixed) := by
  induction ps generalizing r with
  | nil => rfl
  | cons p rest ih =>
    have skip (value : read r p.shown = (r,[])) (none : p.fixed = []) (later : inPlace r rest = true) :
        read r ((p :: rest).flatMap Piece.shown) = read r ((p :: rest).flatMap Piece.fixed) := by
      simp [List.flatMap_cons,read_append,value,none,ih later]
    cases p with
    | markup t => simp [List.flatMap_cons,read_append,Piece.shown,Piece.fixed,ih placed]
    | content t =>
      simp only [inPlace,Bool.and_eq_true,decide_eq_true_eq] at placed
      obtain ⟨rfl,later⟩ := placed
      exact skip (read_text (Piece.isClean_content t).1) rfl later
    | body v =>
      simp only [inPlace,Bool.and_eq_true,decide_eq_true_eq] at placed
      obtain ⟨rfl,later⟩ := placed
      exact skip (read_text (Piece.isClean_body v).1) rfl later
    | quoted t =>
      simp only [inPlace,Bool.and_eq_true] at placed
      obtain ⟨inside,later⟩ := placed
      obtain ⟨seen,rfl⟩ := Reading.eq_of_inQuotes inside
      exact skip (read_value (Piece.isClean_quoted t).2.2 seen) rfl later

/-! ### The pieces of a page -/

/-- The pieces of a row of the table of parameters. -/
def parameterPieces (p : Parameter) : List Piece :=
  [.markup "\n      <tr><td>",.content p.name,.markup "</td><td>",.content p.type,.markup "</td><td>",
    .content (if p.required then "yes" else "no" : Text),.markup "</td></tr>\n      "]

/-- The pieces of the table of parameters. -/
def tablePieces (ps : List Parameter) : List Piece :=
  if ps.isEmpty then []
  else [.markup "\n    <table>\n      <tr><th>Name</th><th>Type</th><th>Required</th></tr>\n      "] ++
    ps.flatMap parameterPieces ++ [.markup "\n    </table>\n    "]

/-- The pieces of a sample. -/
def samplePieces (r : Response) : List Piece :=
  [.markup "\n    <h3>",.content (Text.ofInt r.status),.markup "</h3>\n    <pre>",.body r.body,.markup "</pre>\n    "]

/-- The pieces of the name of a response type. -/
def typePieces (t : Text) : List Piece :=
  if t.isEmpty then [] else [.markup ", response: <code>",.content t,.markup "</code>"]

/-- The pieces of a section up to its heading. -/
def headingPieces (key : Text) (e : Endpoint) : List Piece :=
  [.markup "\n  <section id=\"",.quoted (sectionId key),.markup "\">\n    <h2><code>",.content e.method,
    .markup "</code> ",.content e.path]

/-- The pieces behind the heading, up to the handler. -/
def handlerPieces (e : Endpoint) : List Piece :=
  [.markup "</h2>\n    <p>",.content e.description,.markup "</p>\n    <p>Handler: <code>",.content e.handler,
    .markup "</code>"]

/-- The pieces of the section of an endpoint. -/
def sectionPieces (key : Text) (e : Endpoint) : List Piece :=
  headingPieces key e ++ handlerPieces e ++ typePieces e.responseType ++ [.markup "</p>\n    "] ++ tablePieces e.parameters ++
    [.markup "\n    "] ++ e.responses.flatMap samplePieces ++ [.markup "\n  </section>\n  "]

/-- The pieces in front of the sections. -/
def openingPieces : List Piece :=
  [.markup "<!DOCTYPE html>\n<html lang=\"en\">\n<head>\n  <meta charset=\"utf-8\">\n",
    .markup "  <title>API documentation</title>\n</head>\n<body>\n",.markup "  <h1>API documentation</h1>\n  "]

/-- The pieces of a page. -/
def pieces (endpoints : List (Text × Endpoint)) : List Piece :=
  openingPieces ++ (endpoints.flatMap fun (key,e) => sectionPieces key e) ++ [.markup "\n</body>\n</html>"]

/-- A number is shown as it is. -/
theorem escape_ofInt (n : Int) : escape (Text.ofInt n) = Text.ofInt n := by
  have shown (n : Nat) : escape (Text.ofNat n) = Text.ofNat n := by
    have digit : ∀ c ∈ Text.ofNat n, escapePoint c = [c] := by
      intro c member
      have range := Text.isDigit_of_mem_ofNat member
      simp only [Text.isDigit,Bool.and_eq_true,decide_eq_true_eq] at range
      unfold escapePoint
      split_ifs <;> first | omega | rfl
    rw [escape,List.flatMap_congr digit]
    simp
  cases n with
  | ofNat n => exact shown n
  | negSucc n => exact congrArg (0x2D :: ·) (shown (n+1))

/-- A page is put together from its pieces. -/
theorem shown_pieces (endpoints : List (Text × Endpoint)) : (pieces endpoints).flatMap Piece.shown = page endpoints := by
  have row (p : Parameter) : (parameterPieces p).flatMap Piece.shown = parameterRow p := by
    have answer : escape (if p.required then "yes" else "no" : Text) = (if p.required then "yes" else "no" : Text) := by
      split <;> rfl
    simp [parameterPieces,parameterRow,Piece.shown,answer]
  have table (ps : List Parameter) : (tablePieces ps).flatMap Piece.shown = parameterTable ps := by
    unfold tablePieces parameterTable
    split
    · rfl
    · simp [List.flatMap_assoc,row,Piece.shown]
  have sample (r : Response) : (samplePieces r).flatMap Piece.shown = Html.sample r := by
    simp [samplePieces,Html.sample,Piece.shown,escape_ofInt]
  have type (t : Text) : (typePieces t).flatMap Piece.shown = responseType t := by
    unfold typePieces responseType
    split
    · rfl
    · simp [Piece.shown]
  have whole (key : Text) (e : Endpoint) : (sectionPieces key e).flatMap Piece.shown = endpoint key e := by
    simp [sectionPieces,headingPieces,handlerPieces,endpoint,type,table,sample,List.flatMap_assoc,Piece.shown]
  simp [pieces,openingPieces,page,List.flatMap_assoc,whole,Piece.shown]

/-- Whatever the endpoints are, nothing but the template brings markup into a page. -/
theorem isClean_of_mem_pieces (endpoints : List (Text × Endpoint)) : ∀ p ∈ pieces endpoints, p.IsClean := by
  have type (t : Text) : ∀ p ∈ typePieces t, p.IsClean := by
    unfold typePieces
    split
    · simp
    · simp [template]
  have table (ps : List Parameter) : ∀ p ∈ tablePieces ps, p.IsClean := by
    unfold tablePieces
    split
    · simp
    · simp only [List.forall_mem_append,List.forall_mem_flatMap]
      simp [parameterPieces,template]
  have sample (r : Response) : ∀ p ∈ samplePieces r, p.IsClean := by
    simp [samplePieces,template]
  have single {t : Text} (own : t ∈ template) : ∀ p ∈ [Piece.markup t], p.IsClean := List.forall_mem_singleton.mpr own
  have whole (key : Text) (e : Endpoint) : ∀ p ∈ sectionPieces key e, p.IsClean := by
    have heading : ∀ p ∈ headingPieces key e, p.IsClean := by simp [headingPieces,template]
    have handler : ∀ p ∈ handlerPieces e, p.IsClean := by simp [handlerPieces,template]
    simp only [sectionPieces,List.forall_mem_append,List.forall_mem_flatMap]
    exact ⟨⟨⟨⟨⟨⟨⟨heading,handler⟩,type _⟩,single (by simp [template])⟩,table _⟩,single (by simp [template])⟩,
      fun r _ => sample r⟩,single (by simp [template])⟩
  simp only [pieces,List.forall_mem_append,List.forall_mem_flatMap]
  exact ⟨⟨by simp [openingPieces,template],fun entry _ => whole entry.1 entry.2⟩,single (by simp [template])⟩

/-! ### The tags of a page -/

/-- What tells the tags of an endpoint's section: whether its response type has a name, and how many parameters and samples
    it has. -/
structure Outline where
  hasType : Bool
  parameters : Nat
  samples : Nat

/-- The outline of an endpoint. -/
def outline (e : Endpoint) : Outline := ⟨!e.responseType.isEmpty,e.parameters.length,e.responses.length⟩

/-- The tags of a row of the table of parameters. -/
def rowTags : List Text := ["tr","td","/td","td","/td","td","/td","/tr"]

/-- The tags in front of the rows. -/
def columnTags : List Text := ["table","tr","th","/th","th","/th","th","/th","/tr"]

/-- The tags of a table of so many parameters. -/
def tableTags (rows : Nat) : List Text :=
  if rows = 0 then [] else columnTags ++ (List.replicate rows rowTags).flatten ++ [("/table" : Text)]

/-- The tags of a sample. -/
def sampleTags : List Text := ["h3","/h3","pre","/pre"]

/-- The tags of the name of a response type. -/
def typeTags (hasType : Bool) : List Text := if hasType then ["code","/code"] else []

/-- The tags of a section up to its heading. -/
def headingTags : List Text := ["section id=","h2","code","/code"]

/-- The tags behind the heading, up to the handler. -/
def handlerTags : List Text := ["/h2","p","/p","p","code","/code"]

/-- The tags of a section. -/
def sectionTags (o : Outline) : List Text :=
  headingTags ++ handlerTags ++ typeTags o.hasType ++ [("/p" : Text)] ++ tableTags o.parameters ++
    (List.replicate o.samples sampleTags).flatten ++ [("/section" : Text)]

/-- The tags in front of the sections. -/
def openingTags : List Text :=
  ["!DOCTYPE html","html lang=","head","meta charset=","title","/title","/head","body","h1","/h1"]

/-- The tags of a page. -/
def pageTags (outlines : List Outline) : List Text :=
  openingTags ++ outlines.flatMap sectionTags ++ [("/body" : Text),("/html" : Text)]

/-- A reader between tags meets the given tags in the pieces, and stands between tags again. -/
def Meets (ps : List Piece) (met : List Text) : Prop := read .text (ps.flatMap Piece.shown) = (.text,met)

instance (ps : List Piece) (met : List Text) : Decidable (Meets ps met) :=
  inferInstanceAs (Decidable (read .text (ps.flatMap Piece.shown) = (.text,met)))

namespace Meets

theorem nil : Meets [] [] := rfl

/-- What is met in pieces that are in place can be read off the template. -/
theorem of_inPlace {ps : List Piece} {met : List Text} (placed : inPlace .text ps = true)
    (template : read .text (ps.flatMap Piece.fixed) = (.text,met)) : Meets ps met :=
  (read_shown placed).trans template

theorem append {ps qs : List Piece} {met more : List Text} (first : Meets ps met) (second : Meets qs more) :
    Meets (ps ++ qs) (met ++ more) := by
  unfold Meets at *
  rw [List.flatMap_append,read_append,first,second]

theorem flatMap {α : Type} {as : List α} {pieces : α → List Piece} {met : α → List Text}
    (each : ∀ a, Meets (pieces a) (met a)) : Meets (as.flatMap pieces) (as.flatMap met) := by
  induction as with
  | nil => exact nil
  | cons a rest ih => exact (each a).append ih

/-- The same tags are met in as many pieces as there are members. -/
theorem replicate {α : Type} (as : List α) {pieces : α → List Piece} {met : List Text}
    (each : ∀ a, Meets (pieces a) met) : Meets (as.flatMap pieces) (List.replicate as.length met).flatten := by
  rw [← List.map_const',← List.flatMap_def]
  exact flatMap each

theorem row (p : Parameter) : Meets (parameterPieces p) rowTags := of_inPlace rfl rfl

theorem table (ps : List Parameter) : Meets (tablePieces ps) (tableTags ps.length) := by
  cases ps with
  | nil => exact nil
  | cons p rest =>
    have columns : Meets [.markup "\n    <table>\n      <tr><th>Name</th><th>Type</th><th>Required</th></tr>\n      "]
        columnTags := by decide +kernel
    have ending : Meets [.markup "\n    </table>\n    "] [("/table" : Text)] := of_inPlace rfl rfl
    exact (columns.append (replicate (p :: rest) row)).append ending

theorem sample (r : Response) : Meets (samplePieces r) sampleTags := of_inPlace rfl rfl

theorem type (t : Text) : Meets (typePieces t) (typeTags !t.isEmpty) := by
  cases t with
  | nil => exact nil
  | cons c rest => exact of_inPlace rfl rfl

theorem heading (key : Text) (e : Endpoint) : Meets (headingPieces key e) headingTags := of_inPlace rfl rfl

theorem handler (e : Endpoint) : Meets (handlerPieces e) handlerTags := of_inPlace rfl rfl

theorem endpoint (key : Text) (e : Endpoint) : Meets (sectionPieces key e) (sectionTags (outline e)) := by
  have paragraph : Meets [.markup "</p>\n    "] [("/p" : Text)] := of_inPlace rfl rfl
  have space : Meets [.markup "\n    "] [] := of_inPlace rfl rfl
  have ending : Meets [.markup "\n  </section>\n  "] [("/section" : Text)] := of_inPlace rfl rfl
  have samples := replicate e.responses sample
  have head := (((heading key e).append (handler e)).append (type e.responseType)).append paragraph
  have whole := (((head.append (table e.parameters)).append space).append samples).append ending
  rw [List.append_nil] at whole
  exact whole

/-- A reader of a page meets the tags that the outlines of the endpoints tell. -/
theorem page (endpoints : List (Text × Endpoint)) :
    Meets (pieces endpoints) (pageTags (endpoints.map fun (_,e) => outline e)) := by
  have opening : Meets openingPieces openingTags := by decide +kernel
  have sections : Meets (endpoints.flatMap fun (key,e) => sectionPieces key e)
      (endpoints.flatMap fun (_,e) => sectionTags (outline e)) := flatMap fun (key,e) => endpoint key e
  have ending : Meets [.markup "\n</body>\n</html>"] [("/body" : Text),("/html" : Text)] := of_inPlace rfl rfl
  rw [pageTags,List.flatMap_map]
  exact (opening.append sections).append ending

end Meets

/-- There is one section for each endpoint. -/
theorem count_section (outlines : List Outline) :
    (pageTags outlines).count ("section id=" : Text) = outlines.length := by
  have other {ts : List Text} (rows : Nat) (none : ts.count ("section id=" : Text) = 0) :
      (List.replicate rows ts).flatten.count ("section id=" : Text) = 0 := by
    simp [List.count_flatten,none]
  have type (hasType : Bool) : (typeTags hasType).count ("section id=" : Text) = 0 := by cases hasType <;> decide
  have table (rows : Nat) : (tableTags rows).count ("section id=" : Text) = 0 := by
    have row := other rows (by decide : rowTags.count ("section id=" : Text) = 0)
    unfold tableTags
    split
    · rfl
    · rw [List.count_append,List.count_append,row]
      rfl
  have sample (samples : Nat) := other samples (by decide : sampleTags.count ("section id=" : Text) = 0)
  have one (o : Outline) : (sectionTags o).count ("section id=" : Text) = 1 := by
    simp only [sectionTags,List.count_append,type,table,sample]
    rfl
  have sections : (outlines.flatMap sectionTags).count ("section id=" : Text) = outlines.length := by
    simp [List.count_flatMap,Function.comp_def,one]
  have opening : openingTags.count ("section id=" : Text) = 0 := by decide
  have ending : [("/body" : Text),("/html" : Text)].count ("section id=" : Text) = 0 := by decide
  rw [pageTags,List.count_append,List.count_append,sections,opening,ending,Nat.zero_add,Nat.add_zero]

end Html

namespace Snapshot

/-- What is documented of a snapshot has the same outlines. -/
theorem outlines_documented {s w : Snapshot} (run : s.documented = .ok w) :
    (w.map fun (_,e) => Html.outline e) = s.map fun (_,e) => Html.outline e := by
  refine map_eachDocumented ?_ run
  intro entry written whole
  obtain ⟨e,endpoint,rfl⟩ := map_eq_ok whole
  obtain ⟨responses,each,rfl⟩ := map_eq_ok endpoint
  have units : (responses.map fun _ => ()) = entry.2.responses.map fun _ => () := map_eachDocumented (by simp) each
  have samples : responses.length = entry.2.responses.length := by simpa using congrArg List.length units
  simpa [Html.outline] using samples

/-- A page is put together from the template and from values that bring no angle into it, nor a quotation mark into an
    attribute. So the tags of a page are told by the outlines of the endpoints alone, one section for each endpoint. -/
theorem render_html_tags {s : Snapshot} {b : Bytes} (rendered : s.render .html = .ok b) :
    ∃ w, s.documented = .ok w ∧ Utf8.encode ((Html.pieces w).flatMap Html.Piece.shown) = .ok b ∧
      (∀ p ∈ Html.pieces w, p.IsClean) ∧
      Html.tags ((Html.pieces w).flatMap Html.Piece.shown) = Html.pageTags (s.map fun (_,e) => Html.outline e) ∧
      (Html.tags ((Html.pieces w).flatMap Html.Piece.shown)).count ("section id=" : Text) = s.length := by
  obtain ⟨w,documented,encoded⟩ := encode_of_render rendered
  have met : Html.tags ((Html.pieces w).flatMap Html.Piece.shown) =
      Html.pageTags (s.map fun (_,e) => Html.outline e) := by
    rw [← outlines_documented documented]
    exact congrArg Prod.snd (Html.Meets.page w)
  refine ⟨w,documented,?_,Html.isClean_of_mem_pieces w,met,?_⟩
  · rw [Html.shown_pieces]
    exact encoded
  · rw [met,Html.count_section,List.length_map]

/-! Every text of the endpoint would be markup in another place. -/

private def hostile : Snapshot :=
  [("\"><script>",⟨"</p><script>","a<b>","<\"","'>","<code>",[⟨"</table>","\"",true⟩],[⟨.str "</pre><script>",200⟩]⟩)]

theorem render_html_tags_hostile : ∃ b, hostile.render .html = .ok b ∧
    Utf8.encode ((Html.pieces hostile).flatMap Html.Piece.shown) = .ok b ∧
    Html.tags ((Html.pieces hostile).flatMap Html.Piece.shown) = Html.pageTags [⟨true,1,1⟩] := by
  have documented : hostile.documented = .ok hostile := rfl
  have ints : hostile.document.intsWritable = true := by decide +kernel
  have encodable : (hostile.text .html).IsEncodable :=
    Html.isEncodable_page (by simp [hostile,Endpoint.texts,Value.Exact.str])
  have encoded := Utf8.encode_of_isEncodable encodable
  have rendered : hostile.render .html = .ok ((hostile.text .html).flatMap Utf8.encodePoint) := by
    simp only [render,renderText,documented,ints,if_true,encoded]
  obtain ⟨w,own,shown,_,met,_⟩ := render_html_tags rendered
  cases documented.symm.trans own
  exact ⟨_,rendered,shown,met⟩

end Snapshot

end ApiDocs
