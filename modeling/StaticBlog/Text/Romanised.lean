/-!
# Letters in the basic alphabet

Names of files use the letters that every keyboard has. Other letters are written with those that
come near to their sound.

- `romanForms` : how letters are written, by the way they are written
- `syllable?` : how Korean syllables are written
- `romanised` : a character in the basic alphabet
- `slugOfTitle` : a name of a file for a title
-/

namespace StaticBlog
namespace Text

/-! ## Letters -/

/-- Ways to write letters, each with the letters that are written so. -/
def romanForms : List (String × String) :=
  [ ("(c)", "©"), ("(r)", "®"), ("1", "¹"), ("1/2", "½"), ("1/4", "¼"), ("2", "²"), ("3", "³"),
    ("3/4", "¾"), ("a", "ªàáâãäåāăąǎǟǡǻȁȃȧάαаḁạảấầẩẫậắằẳẵặぁあァアÀÁÂÃÄÅĀĂĄǍǞǠǺȀȂȦΆΑАḀẠẢẤẦẨẪẬẮẰẲẴẶ"),
    ("ae", "Ææ"), ("ai ", "爱"), ("an ", "安"), ("b", "ƀβбḃḅḇΒБḂḄḆ"), ("ba", "ばバ"), ("ba ", "八"),
    ("be", "べベ"), ("bei ", "北"), ("ben ", "本"), ("bi", "びビ"), ("bi ", "笔"), ("bian ", "编"),
    ("biao ", "标標"), ("bo", "ぼボ"), ("bo ", "博"), ("bu", "ぶブ"), ("bu ", "不部"),
    ("c", "ÇĆĈĊČḈçćĉċčḉ"), ("c/", "¢"), ("ce ", "测"), ("ch", "Чч"), ("cheng ", "程"),
    ("chi", "ちチ"), ("chun ", "春"), ("d", "ÐĎĐƉΔДḊḌḎḐḒðďđδдḋḍḏḑḓ"), ("da", "だダ"), ("da ", "大"),
    ("dao ", "到道"), ("de", "でデ"), ("de ", "的"), ("deg", "°"), ("di", "ぢヂ"), ("di ", "地第"),
    ("dian ", "电電"), ("dj", "Ђђ"), ("do", "どド"), ("dong ", "东冬"), ("du", "づヅ"), ("du ", "读"),
    ("dz", "ǄǱǅǲЅǆǳѕ"), ("dzh", "Џџ"),
    ("e", "ÈÉÊËĒĔĖĘĚȄȆȨΈΉΕΗЕЭḔḖḘḚḜẸẺẼẾỀỂỄỆèéêëēĕėęěȅȇȩέήεηеэḕḗḙḛḝẹẻẽếềểễệぇえェエ"), ("er ", "二"), ("eur", "€"),
    ("f", "ƒфḟФḞ"), ("fa ", "发"), ("fan ", "繁"), ("fu", "ふフ"), ("g", "ĜĞĠĢǦǴΓГҐḠĝğġģǧǵγгґḡ"),
    ("ga", "がガ"), ("ge", "げゲ"), ("ge ", "个"), ("gi", "ぎギ"), ("gj", "Ѓѓ"), ("go", "ごゴ"),
    ("gong ", "工"), ("gu", "ぐグ"), ("guo ", "国國"), ("h", "ĤĦȞḢḤḦḨḪĥħȟḣḥḧḩḫẖ"), ("ha", "はハ"),
    ("han ", "汉漢"), ("hao ", "好"), ("he", "へヘ"), ("hi", "ひヒ"), ("ho", "ほホ"), ("hou ", "后後"),
    ("hui ", "会"), ("huo ", "活火"), ("i", "ÌÍÎÏĨĪĬĮİǏȈȊΊΙΪІЍИЙḬḮỈỊìíîïĩīĭįıǐȉȋΐίιϊийіѝḭḯỉịぃいィイ"),
    ("ia", "Яя"), ("ie", "ЀЄѐє"), ("ij", "Ĳĳ"), ("io", "Ёё"), ("iu", "Юю"), ("j", "ĴЈĵǰј"),
    ("ji", "じジ"), ("ji ", "技記记"), ("jia ", "家"), ("jian ", "简"), ("jie ", "界结节"), ("jin ", "金"),
    ("jing ", "京"), ("jiu ", "九"), ("k", "ĶǨΚКḰḲḴķĸǩκкḱḳḵ"), ("ka", "かカ"), ("kai ", "开開"),
    ("ke", "けケ"), ("ke ", "可客"), ("kh", "ΧХχх"), ("ki", "きキ"), ("kj", "Ќќ"), ("ko", "こコ"),
    ("ks", "Ξξ"), ("ku", "くク"), ("kuai ", "快"), ("l", "ĹĻĽĿŁΛЛḶḸḺḼĺļľŀłλлḷḹḻḽ"), ("lai ", "来"),
    ("le ", "乐"), ("liu ", "六"), ("lj", "ǇǈЉǉљ"), ("m", "ΜМḾṀṂμмḿṁṃ"), ("ma", "まマ"),
    ("me", "めメ"), ("men ", "们"), ("mi", "みミ"), ("ming ", "名明"), ("mo", "もモ"), ("mu", "むム"),
    ("mu ", "木"), ("n", "ÑŃŅŇǸΝНṄṆṈṊñńņňŉǹνнṅṇṉṋんン"), ("na", "なナ"), ("nan ", "南"), ("nao ", "脑"),
    ("ne", "ねネ"), ("nei ", "内"), ("ng", "Ŋŋ"), ("ni", "にニ"), ("ni ", "你"), ("nian ", "年"),
    ("nj", "ǊǋЊǌњ"), ("no", "のノ"), ("nu", "ぬヌ"),
    ("o", "ºòóôõöøōŏőơǒǫǭȍȏȫȭȯȱοωόώоṍṏṑṓọỏốồổỗộớờởỡợぉおォオÒÓÔÕÖØŌŎŐƠǑǪǬȌȎȪȬȮȰΌΏΟΩОṌṎṐṒỌỎỐỒỔỖỘỚỜỞỠỢ"),
    ("oe", "Œœ"), ("p", "¶ΠПṔṖπпṕṗ"), ("pa", "ぱパ"), ("pe", "ぺペ"), ("ph", "Φφ"), ("pi", "ぴピ"),
    ("pian ", "篇"), ("po", "ぽポ"), ("ps", "£Ψψ"), ("pu", "ぷプ"), ("qi ", "七"), ("qian ", "前"),
    ("qiu ", "秋"), ("r", "ŔŖŘȐȒΡРṘṚṜṞŕŗřȑȓρрṙṛṝṟ"), ("ra", "らラ"), ("re", "れレ"), ("ren ", "人"),
    ("ri", "りリ"), ("ri ", "日"), ("ro", "ろロ"), ("rong ", "容"), ("ru", "るル"),
    ("s", "ŚŜŞŠȘΣСṠṢṤṦṨśŝşšſșςσсṡṣṥṧṩẛ"), ("sa", "さサ"), ("san ", "三"), ("se", "せセ"),
    ("sh", "Шш"), ("shan ", "山"), ("shang ", "上"), ("shch", "Щщ"), ("sheng ", "生"),
    ("shi", "しシ"), ("shi ", "世使十始时是試试"), ("shou ", "手"), ("shu ", "书書术署"), ("shui ", "水"),
    ("shuo ", "说"), ("si ", "四"), ("so", "そソ"), ("ss", "§ẞß"), ("su", "すス"), ("sui ", "随"),
    ("t", "ŢŤŦȚΤТṪṬṮṰţťŧțτтṫṭṯṱẗ"), ("ta", "たタ"), ("ta ", "他"), ("te", "てテ"), ("th", "ÞΘþθ"),
    ("ti ", "体題题"), ("tian ", "天"), ("to", "とト"), ("ts", "Цц"), ("tsh", "Ћћ"), ("tsu", "っつッツ"),
    ("tu ", "土"),
    ("u", "µùúûüũūŭůűųưǔǖǘǚǜȕȗΰυϋύуўṳṵṷṹṻụủứừửữựぅうゥウÙÚÛÜŨŪŬŮŰŲƯǓǕǗǙǛȔȖΎΥΫЎУṲṴṶṸṺỤỦỨỪỬỮỰ"),
    ("v", "ВṼṾвṽṿ"), ("w", "ŴẀẂẄẆẈŵẁẃẅẇẉẘ"), ("wa", "ゎわヮワ"), ("we", "ゑヱ"), ("wen ", "文"),
    ("wi", "ゐヰ"), ("wo", "をヲ"), ("wo ", "我"), ("wu ", "五"), ("x", "×ẋẍẊẌ"), ("xi ", "西"),
    ("xia ", "下夏"), ("xiang ", "想"), ("xiao ", "小"), ("xie ", "写"), ("xin ", "心新"),
    ("xue ", "学"), ("y", "ÝŶŸȲЫẎỲỴỶỸýÿŷȳыẏẙỳỵỷỹ"), ("y=", "¥"), ("ya", "ゃやャヤ"), ("yi", "Її"),
    ("yi ", "一"), ("yo", "ょよョヨ"), ("yong ", "用"), ("you ", "有"), ("yu", "ゅゆュユ"), ("yu ", "語语"),
    ("yue ", "月"), ("z", "ŹŻŽΖЗẐẒẔźżžζзẑẓẕ"), ("za", "ざザ"), ("zai ", "在"), ("ze", "ぜゼ"),
    ("zh", "Жж"), ("zhang ", "章"), ("zhe ", "这"), ("zhi ", "指"), ("zhong ", "中"), ("zhu ", "主"),
    ("zhuang ", "装裝"), ("zi ", "字自"), ("zo", "ぞゾ"), ("zong ", "总"), ("zu", "ずズ"), ("zuo ", "作") ]

/-- Whether a character is only a mark on another one, or nothing to be seen. -/
def isSilent (c : Char) : Bool :=
  let n := c.toNat
  n = 0xAD || (0x300 ≤ n && n ≤ 0x36F) || (0x200B ≤ n && n ≤ 0x200F) || (0xFE00 ≤ n && n ≤ 0xFE0F)

/-! ## Syllables -/

/-- What Korean syllables begin with, in the order of their characters. -/
def syllableOnsets : List String :=
  ["g", "gg", "n", "d", "dd", "r", "m", "b", "bb", "s", "ss", "", "j", "jj", "c", "k", "t", "p", "h"]

/-- The vowels of Korean syllables, in the order of their characters. -/
def syllableVowels : List String :=
  ["a", "ae", "ya", "yae", "eo", "e", "yeo", "ye", "o", "wa", "wae", "oe", "yo", "u", "weo", "we",
    "wi", "yu", "eu", "yi", "i"]

/-- What Korean syllables end with, in the order of their characters. -/
def syllableCodas : List String :=
  ["", "g", "gg", "gs", "n", "nj", "nh", "d", "l", "lg", "lm", "lb", "ls", "lt", "lp", "lh", "m",
    "b", "bs", "s", "ss", "ng", "j", "c", "k", "t", "p", "h"]

/-- A Korean syllable as it sounds: its characters are in order of onset, vowel and coda. -/
def syllable? (c : Char) : Option String := do
  let first := 0xAC00
  if c.toNat < first then none
  else
    let n := c.toNat - first
    let codas := syllableCodas.length
    let vowels := syllableVowels.length
    return (← syllableOnsets[n / (codas * vowels)]?)
      ++ (← syllableVowels[n / codas % vowels]?) ++ (← syllableCodas[n % codas]?)

/-- The basic character that a character of full width shows. -/
def ofFullWidth? (c : Char) : Option Char :=
  if 0xFF01 ≤ c.toNat && c.toNat ≤ 0xFF5E then some (Char.ofNat (c.toNat - 0xFEE0)) else none

/-! ## All characters -/

/-- A character in the basic alphabet. A dash stands for what cannot be written in it. -/
def romanised (c : Char) : List Char :=
  if c.toNat < 128 then [c]
  else if isSilent c then []
  else if let some form := syllable? c then form.toList
  else if let some basic := ofFullWidth? c then [basic]
  else match romanForms.find? fun (_, letters) => letters.toList.contains c with
    | some (form, _) => form.toList
    | none => ['-']

/-! ## Slugs -/

/-- Writes a dash for each run of characters that are neither letters nor digits, but none in front.
`inRun` says whether the character before was one, or whether there was none. -/
def dashed : (inRun : Bool) → List Char → List Char
  | _, [] => []
  | inRun, c :: s =>
    if c.isAlphanum then c.toLower :: dashed false s
    else if inRun then dashed true s
    else '-' :: dashed true s

/-- Letters and digits of the basic alphabet with single dashes between them. -/
def slugChars (title : List Char) : List Char :=
  let s := dashed true (title.flatMap romanised)
  if s.getLast? = some '-' then s.dropLast else s

/-- A name of a file for a title. A title without letters and digits is that of any post. -/
def slugOfTitle (title : String) : String :=
  match slugChars title.toList with
  | [] => "post"
  | s => String.ofList s

end Text
end StaticBlog
