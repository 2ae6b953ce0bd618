/-!
# Table of the Unicode compositions

The characters that stand for a letter and a mark, apart from the syllables of Hangul, for which
there is a formula, and from capital letters. A composition of several marks is listed mark by mark.
-/

namespace XmlTemplate.Text

/-- A mark, letters that it combines with, and in the same order what they become. -/
structure Composition where
  mark : Char
  letters : String
  composed : String

/-- The compositions, by mark. -/
def compositions : List Composition := [
  ⟨'\u0300', "aeinouwyâêôüăēōơưαεηιουωϊϋеиἀἁἐἑἠἡἰἱὀὁ", "àèìǹòùẁỳầềồǜằḕṑờừὰὲὴὶὸὺὼῒῢѐѝἂἃἒἓἢἣἲἳὂὃ"⟩,
  ⟨'\u0300', "ὐὑὠὡ", "ὒὓὢὣ"⟩,
  ⟨'\u0301', "acegiklmnoprsuwyzâåæçêïôõøüăēōũơưαεηιο", "áćéǵíḱĺḿńóṕŕśúẃýźấǻǽḉếḯốṍǿǘắḗṓṹớứάέήίό"⟩,
  ⟨'\u0301', "υωϊϋгкἀἁἐἑἠἡἰἱὀὁὐὑὠὡ", "ύώΐΰѓќἄἅἔἕἤἥἴἵὄὅὔὕὤὥ"⟩,
  ⟨'\u0302', "aceghijosuwyzạẹọ", "âĉêĝĥîĵôŝûŵŷẑậệộ"⟩,
  ⟨'\u0303', "aeinouvyâêôăơư", "ãẽĩñõũṽỹẫễỗẵỡữ"⟩,
  ⟨'\u0304', "aegiouyäæõöüǫȧȯαιυиуḷṛ", "āēḡīōūȳǟǣȭȫǖǭǡȱᾱῑῡӣӯḹṝ"⟩,
  ⟨'\u0306', "aegiouȩαιυаежиуạ", "ăĕğĭŏŭḝᾰῐῠӑӗӂйўặ"⟩,
  ⟨'\u0307', "abcdefghmnoprstwxyzśšṣ𐗒𐗚", "ȧḃċḋėḟġḣṁṅȯṗṙṡṫẇẋẏżṥṧṩ𐗉𐗤"⟩,
  ⟨'\u0308', "aehiotuwxyõūιυаежзиоучыэіәө", "äëḧïöẗüẅẍÿṏṻϊϋӓёӝӟӥӧӱӵӹӭїӛӫ"⟩,
  ⟨'\u0309', "aeiouyâêôăơư", "ảẻỉỏủỷẩểổẳởử"⟩, ⟨'\u030a', "auwy", "åůẘẙ"⟩, ⟨'\u030b', "ouу", "őűӳ"⟩,
  ⟨'\u030c', "acdeghijklnorstuzüʒ", "ǎčďěǧȟǐǰǩľňǒřšťǔžǚǯ"⟩, ⟨'\u030f', "aeioruѵ", "ȁȅȉȍȑȕѷ"⟩,
  ⟨'\u0311', "aeioru", "ȃȇȋȏȓȗ"⟩, ⟨'\u0313', "αεηιορυω", "ἀἐἠἰὀῤὐὠ"⟩,
  ⟨'\u0314', "αεηιορυω", "ἁἑἡἱὁῥὑὡ"⟩, ⟨'\u031b', "ou", "ơư"⟩,
  ⟨'\u0323', "abdehiklmnorstuvwyzơư", "ạḅḍẹḥịḳḷṃṇọṛṣṭụṿẉỵẓợự"⟩, ⟨'\u0324', "u", "ṳ"⟩,
  ⟨'\u0325', "a", "ḁ"⟩, ⟨'\u0326', "st", "șț"⟩, ⟨'\u0327', "cdeghklnrst", "çḑȩģḩķļņŗşţ"⟩,
  ⟨'\u0328', "aeiou", "ąęįǫų"⟩, ⟨'\u032d', "delntu", "ḓḙḽṋṱṷ"⟩, ⟨'\u032e', "h", "ḫ"⟩,
  ⟨'\u0330', "eiu", "ḛḭṵ"⟩, ⟨'\u0331', "bdhklnrtz", "ḇḏẖḵḻṉṟṯẕ"⟩,
  ⟨'\u0338', "<=>←→↔⇐⇒⇔∃∈∋∣∥∼≃≅≈≍≡≤≥≲≳≶≷≺≻≼≽⊂⊃⊆⊇⊑⊒⊢⊨", "≮≠≯↚↛↮⇍⇏⇎∄∉∌∤∦≁≄≇≉≭≢≰≱≴≵≸≹⊀⊁⋠⋡⊄⊅⊈⊉⋢⋣⊬⊭"⟩,
  ⟨'\u0338', "⊩⊫⊲⊳⊴⊵", "⊮⊯⋪⋫⋬⋭"⟩, ⟨'\u0342', "αηιυωϊϋἀἁἠἡἰἱὐὑὠὡ", "ᾶῆῖῦῶῗῧἆἇἦἧἶἷὖὗὦὧ"⟩,
  ⟨'\u0653', "\u0627", "\u0622"⟩,
  ⟨'\u0654', "\u0627\u0648\u064a\u06c1\u06d2\u06d5", "\u0623\u0624\u0626\u06c2\u06d3\u06c0"⟩,
  ⟨'\u0655', "\u0627", "\u0625"⟩, ⟨'\u093c', "नरळ", "ऩऱऴ"⟩, ⟨'\u09be', "\u09c7", "\u09cb"⟩,
  ⟨'\u09d7', "\u09c7", "\u09cc"⟩, ⟨'\u0b3e', "\u0b47", "\u0b4b"⟩, ⟨'\u0b56', "\u0b47", "\u0b48"⟩,
  ⟨'\u0b57', "\u0b47", "\u0b4c"⟩, ⟨'\u0bbe', "\u0bc6\u0bc7", "\u0bca\u0bcb"⟩,
  ⟨'\u0bd7', "ஒ\u0bc6", "ஔ\u0bcc"⟩, ⟨'\u0c56', "\u0c46", "\u0c48"⟩, ⟨'\u0cc2', "\u0cc6", "\u0cca"⟩,
  ⟨'\u0cd5', "\u0cbf\u0cc6\u0cca", "\u0cc0\u0cc7\u0ccb"⟩, ⟨'\u0cd6', "\u0cc6", "\u0cc8"⟩,
  ⟨'\u0d3e', "\u0d46\u0d47", "\u0d4a\u0d4b"⟩, ⟨'\u0d57', "\u0d46", "\u0d4c"⟩,
  ⟨'\u0dca', "\u0dd9\u0ddc", "\u0dda\u0ddd"⟩, ⟨'\u0dcf', "\u0dd9", "\u0ddc"⟩,
  ⟨'\u0ddf', "\u0dd9", "\u0dde"⟩, ⟨'\u102e', "ဥ", "ဦ"⟩,
  ⟨'\u1b35', "ᬅᬇᬉᬋᬍᬑ\u1b3a\u1b3c\u1b3e\u1b3f\u1b42", "ᬆᬈᬊᬌᬎᬒ\u1b3b\u1b3d\u1b40\u1b41\u1b43"⟩,
  ⟨'\u3099', "うかきくけこさしすせそたちつてとはひふへほゝウカキクケコサシスセソタチツテト", "ゔがぎぐげござじずぜぞだぢづでどばびぶべぼゞヴガギグゲゴザジズゼゾダヂヅデド"⟩,
  ⟨'\u3099', "ハヒフヘホワヰヱヲヽ", "バビブベボヷヸヹヺヾ"⟩, ⟨'\u309a', "はひふへほハヒフヘホ", "ぱぴぷぺぽパピプペポ"⟩,
  ⟨'𑂺', "𑂙𑂛𑂥", "𑂚𑂜𑂫"⟩, ⟨'𑄧', "𑄱𑄲", "𑄮𑄯"⟩, ⟨'𑌾', "𑍇", "𑍋"⟩, ⟨'𑍗', "𑍇", "𑍌"⟩, ⟨'𑎸', "𑏂", "𑏇"⟩,
  ⟨'𑎻', "𑎄", "𑎅"⟩, ⟨'𑏂', "𑎎", "𑎎𑏅"⟩, ⟨'𑏉', "𑎂𑎐𑏂", "𑎃𑎑𑏈"⟩, ⟨'𑒰', "𑒹", "𑒼"⟩, ⟨'𑒺', "𑒹", "𑒻"⟩,
  ⟨'𑒽', "𑒹", "𑒾"⟩, ⟨'𑖯', "𑖸𑖹", "𑖺𑖻"⟩, ⟨'𑤰', "𑤵", "𑤸"⟩, ⟨'𖄞', "𖄞", "𖄡"⟩, ⟨'𖄟', "𖄡𖄡𖄩𖄩", "𖄣𖄦𖄧𖄤"⟩,
  ⟨'𖄠', "𖄡𖄞", "𖄥𖄨"⟩, ⟨'𖄩', "𖄞", "𖄢"⟩, ⟨'𖵧', "𖵩𖵩", "𖵪𖵧𖵪"⟩]

end XmlTemplate.Text
