import Phrasebook.Locale.LanguageTag

/-! # Names for date patterns

    The names and the ready-made patterns that a date pattern draws on: those of
    a language in one region. A tag without a region takes the region of the table
    of regions, and a language without names is served by the portable ones.
-/

namespace Phrasebook

/-- What a date pattern needs to know of a locale. -/
structure PatternNames where
  /-- Short names of the weekdays, from Sunday. -/
  shortWeekdays : List String
  /-- Names of the weekdays, from Sunday. -/
  weekdays : List String
  /-- Short names of the months, from January. -/
  shortMonths : List String
  /-- Names of the months, from January. -/
  months : List String
  /-- The name of the hours before noon. -/
  am : String
  /-- The name of the hours from noon on. -/
  pm : String
  /-- The pattern of a date. -/
  date : String
  /-- The pattern of a time. -/
  time : String
  /-- The pattern of a date and a time. -/
  dateTime : String
  /-- The pattern of a time of twelve hours, empty where there is none. -/
  dialTime : String
  /-- The decimal point. -/
  point : Char
  deriving DecidableEq, Repr

namespace PatternNames

def portable : PatternNames :=
  ⟨["Sun", "Mon", "Tue", "Wed", "Thu", "Fri", "Sat"],
    ["Sunday", "Monday", "Tuesday", "Wednesday", "Thursday", "Friday", "Saturday"],
    ["Jan", "Feb", "Mar", "Apr", "May", "Jun", "Jul", "Aug", "Sep", "Oct", "Nov", "Dec"],
    ["January", "February", "March", "April", "May", "June", "July", "August", "September",
      "October", "November", "December"],
    "AM", "PM",
    "%m/%d/%y", "%H:%M:%S",
    "%a %b %e %H:%M:%S %Y", "%I:%M:%S %p", '.'⟩

def german : PatternNames :=
  ⟨["So", "Mo", "Di", "Mi", "Do", "Fr", "Sa"],
    ["Sonntag", "Montag", "Dienstag", "Mittwoch", "Donnerstag", "Freitag", "Samstag"],
    ["Jan", "Feb", "Mär", "Apr", "Mai", "Jun", "Jul", "Aug", "Sep", "Okt", "Nov", "Dez"],
    ["Januar", "Februar", "März", "April", "Mai", "Juni", "Juli", "August", "September",
      "Oktober", "November", "Dezember"],
    "", "",
    "%d.%m.%Y", "%T",
    "%a %d %b %Y %T %Z", "", ','⟩

def spanish : PatternNames :=
  ⟨["dom", "lun", "mar", "mié", "jue", "vie", "sáb"],
    ["domingo", "lunes", "martes", "miércoles", "jueves", "viernes", "sábado"],
    ["ene", "feb", "mar", "abr", "may", "jun", "jul", "ago", "sep", "oct", "nov", "dic"],
    ["enero", "febrero", "marzo", "abril", "mayo", "junio", "julio", "agosto", "septiembre",
      "octubre", "noviembre", "diciembre"],
    "", "",
    "%d/%m/%y", "%T",
    "%a %d %b %Y %T %Z", "", ','⟩

/-- The names of languages in a region. -/
def table : List (String × PatternNames) :=
  [
    ("en-US",
      { portable with
        date := "%m/%d/%Y", time := "%I:%M:%S %p"
        dateTime := "%a %d %b %Y %I:%M:%S %p %Z" }),
    ("en-AU",
      { portable with
        date := "%d/%m/%y", time := "%T"
        dateTime := "%a %d %b %Y %T %Z" }),
    ("en-CA",
      { portable with
        date := "%Y-%m-%d", time := "%I:%M:%S %p"
        dateTime := "%a %d %b %Y %I:%M:%S %p %Z" }),
    ("en-IN",
      { portable with
        date := "%d/%m/%y", time := "%I:%M:%S %p %Z"
        dateTime := "%A %d %b %Y %I:%M:%S %p %Z", dialTime := "%I:%M:%S %p %Z" }),
    ("en-GB",
      { portable with
        am := "am", pm := "pm"
        date := "%d/%m/%y", time := "%T"
        dateTime := "%a %d %b %Y %T %Z", dialTime := "%l:%M:%S %P %Z" }),
    ("de-DE", german),
    ("de-CH", { german with point := '.' }),
    ("de-AT",
      ⟨["So", "Mo", "Di", "Mi", "Do", "Fr", "Sa"],
        ["Sonntag", "Montag", "Dienstag", "Mittwoch", "Donnerstag", "Freitag", "Samstag"],
        ["Jän", "Feb", "Mär", "Apr", "Mai", "Jun", "Jul", "Aug", "Sep", "Okt", "Nov", "Dez"],
        ["Jänner", "Februar", "März", "April", "Mai", "Juni", "Juli", "August", "September",
          "Oktober", "November", "Dezember"],
        "", "",
        "%Y-%m-%d", "%T",
        "%a %d %b %Y %T %Z", "", ','⟩),
    ("fr-FR",
      ⟨["dim.", "lun.", "mar.", "mer.", "jeu.", "ven.", "sam."],
        ["dimanche", "lundi", "mardi", "mercredi", "jeudi", "vendredi", "samedi"],
        ["janv.", "févr.", "mars", "avril", "mai", "juin", "juil.", "août", "sept.", "oct.",
          "nov.", "déc."],
        ["janvier", "février", "mars", "avril", "mai", "juin", "juillet", "août", "septembre",
          "octobre", "novembre", "décembre"],
        "", "",
        "%d/%m/%Y", "%T",
        "%a %d %b %Y %T %Z", "", ','⟩),
    ("fr-CA",
      ⟨["dim", "lun", "mar", "mer", "jeu", "ven", "sam"],
        ["dimanche", "lundi", "mardi", "mercredi", "jeudi", "vendredi", "samedi"],
        ["jan", "fév", "mar", "avr", "mai", "jun", "jui", "aoû", "sep", "oct", "nov", "déc"],
        ["janvier", "février", "mars", "avril", "mai", "juin", "juillet", "août", "septembre",
          "octobre", "novembre", "décembre"],
        "", "",
        "%Y-%m-%d", "%T",
        "%a %d %b %Y %T %Z", "", ','⟩),
    ("es-ES", spanish),
    ("es-MX", { spanish with point := '.' }),
    ("it-IT",
      ⟨["dom", "lun", "mar", "mer", "gio", "ven", "sab"],
        ["domenica", "lunedì", "martedì", "mercoledì", "giovedì", "venerdì", "sabato"],
        ["gen", "feb", "mar", "apr", "mag", "giu", "lug", "ago", "set", "ott", "nov", "dic"],
        ["gennaio", "febbraio", "marzo", "aprile", "maggio", "giugno", "luglio", "agosto",
          "settembre", "ottobre", "novembre", "dicembre"],
        "", "",
        "%d/%m/%Y", "%T",
        "%a %-d %b %Y, %T", "", ','⟩),
    ("ja-JP",
      ⟨["日", "月", "火", "水", "木", "金", "土"],
        ["日曜日", "月曜日", "火曜日", "水曜日", "木曜日", "金曜日", "土曜日"],
        [" 1月", " 2月", " 3月", " 4月", " 5月", " 6月", " 7月", " 8月", " 9月", "10月", "11月", "12月"],
        ["1月", "2月", "3月", "4月", "5月", "6月", "7月", "8月", "9月", "10月", "11月", "12月"],
        "午前", "午後",
        "%Y年%m月%d日", "%H時%M分%S秒",
        "%Y年%m月%d日 %H時%M分%S秒", "%p%I時%M分%S秒", '.'⟩),
    ("ko-KR",
      ⟨["일", "월", "화", "수", "목", "금", "토"],
        ["일요일", "월요일", "화요일", "수요일", "목요일", "금요일", "토요일"],
        [" 1월", " 2월", " 3월", " 4월", " 5월", " 6월", " 7월", " 8월", " 9월", "10월", "11월", "12월"],
        ["1월", "2월", "3월", "4월", "5월", "6월", "7월", "8월", "9월", "10월", "11월", "12월"],
        "오전", "오후",
        "%Y년 %m월 %d일", "%H시 %M분 %S초",
        "%Y년 %m월 %d일 (%a) %p %I시 %M분 %S초", "%p %I시 %M분 %S초", '.'⟩),
    ("pt-PT",
      ⟨["dom", "seg", "ter", "qua", "qui", "sex", "sáb"],
        ["domingo", "segunda", "terça", "quarta", "quinta", "sexta", "sábado"],
        ["jan", "fev", "mar", "abr", "mai", "jun", "jul", "ago", "set", "out", "nov", "dez"],
        ["janeiro", "fevereiro", "março", "abril", "maio", "junho", "julho", "agosto", "setembro",
          "outubro", "novembro", "dezembro"],
        "", "",
        "%d/%m/%Y", "%T",
        "%a %d %b %Y %T %Z", "", ','⟩),
    ("pt-BR",
      ⟨["dom", "seg", "ter", "qua", "qui", "sex", "sáb"],
        ["domingo", "segunda", "terça", "quarta", "quinta", "sexta", "sábado"],
        ["jan", "fev", "mar", "abr", "mai", "jun", "jul", "ago", "set", "out", "nov", "dez"],
        ["janeiro", "fevereiro", "março", "abril", "maio", "junho", "julho", "agosto", "setembro",
          "outubro", "novembro", "dezembro"],
        "", "",
        "%d/%m/%Y", "%T",
        "%a %d %b %Y %T %Z", "", ','⟩),
    ("ru-RU",
      ⟨["Вс", "Пн", "Вт", "Ср", "Чт", "Пт", "Сб"],
        ["Воскресенье", "Понедельник", "Вторник", "Среда", "Четверг", "Пятница", "Суббота"],
        ["янв", "фев", "мар", "апр", "мая", "июн", "июл", "авг", "сен", "окт", "ноя", "дек"],
        ["января", "февраля", "марта", "апреля", "мая", "июня", "июля", "августа", "сентября",
          "октября", "ноября", "декабря"],
        "", "",
        "%d.%m.%Y", "%T",
        "%a %d %b %Y %T", "", ','⟩),
    ("pl-PL",
      ⟨["nie", "pon", "wto", "śro", "czw", "pią", "sob"],
        ["niedziela", "poniedziałek", "wtorek", "środa", "czwartek", "piątek", "sobota"],
        ["sty", "lut", "mar", "kwi", "maj", "cze", "lip", "sie", "wrz", "paź", "lis", "gru"],
        ["stycznia", "lutego", "marca", "kwietnia", "maja", "czerwca", "lipca", "sierpnia",
          "września", "października", "listopada", "grudnia"],
        "", "",
        "%d.%m.%Y", "%T",
        "%a, %-d %b %Y, %T", "", ','⟩),
    ("nl-NL",
      ⟨["zo", "ma", "di", "wo", "do", "vr", "za"],
        ["zondag", "maandag", "dinsdag", "woensdag", "donderdag", "vrijdag", "zaterdag"],
        ["jan", "feb", "mrt", "apr", "mei", "jun", "jul", "aug", "sep", "okt", "nov", "dec"],
        ["januari", "februari", "maart", "april", "mei", "juni", "juli", "augustus", "september",
          "oktober", "november", "december"],
        "", "",
        "%d-%m-%y", "%T",
        "%a %d %b %Y %T %Z", "", ','⟩),
    ("sv-SE",
      ⟨["sön", "mån", "tis", "ons", "tor", "fre", "lör"],
        ["söndag", "måndag", "tisdag", "onsdag", "torsdag", "fredag", "lördag"],
        ["jan", "feb", "mar", "apr", "maj", "jun", "jul", "aug", "sep", "okt", "nov", "dec"],
        ["januari", "februari", "mars", "april", "maj", "juni", "juli", "augusti", "september",
          "oktober", "november", "december"],
        "", "",
        "%Y-%m-%d", "%H:%M:%S",
        "%a %e %b %Y %H:%M:%S", "", ','⟩),
    ("zh-CN",
      ⟨["日", "一", "二", "三", "四", "五", "六"],
        ["星期日", "星期一", "星期二", "星期三", "星期四", "星期五", "星期六"],
        ["1月", "2月", "3月", "4月", "5月", "6月", "7月", "8月", "9月", "10月", "11月", "12月"],
        ["一月", "二月", "三月", "四月", "五月", "六月", "七月", "八月", "九月", "十月", "十一月", "十二月"],
        "上午", "下午",
        "%Y年%m月%d日", "%H时%M分%S秒",
        "%Y年%m月%d日 %A %H时%M分%S秒", "%p %I时%M分%S秒", '.'⟩),
    ("zh-TW",
      ⟨["日", "一", "二", "三", "四", "五", "六"],
        ["週日", "週一", "週二", "週三", "週四", "週五", "週六"],
        [" 1月", " 2月", " 3月", " 4月", " 5月", " 6月", " 7月", " 8月", " 9月", "10月", "11月", "12月"],
        ["一月", "二月", "三月", "四月", "五月", "六月", "七月", "八月", "九月", "十月", "十一月", "十二月"],
        "上午", "下午",
        "西元%Y年%m月%d日", "%H時%M分%S秒",
        "西元%Y年%m月%d日 (%A) %H時%M分%S秒", "%p %I時%M分%S秒", '.'⟩),
    ("ar-SA",
      ⟨["ح", "ن", "ث", "ر", "خ", "ج", "س"],
        ["الأحد", "الإثنين", "الثلاثاء", "الأربعاء", "الخميس", "الجمعـة", "السبت"],
        ["يناير", "فبراير", "مارس", "أبريل", "مايو", "يونيو", "يوليو", "أغسطس", "سبتمبر",
          "أكتوبر", "نوفمبر", "ديسمبر"],
        ["يناير", "فبراير", "مارس", "أبريل", "مايو", "يونيو", "يوليو", "أغسطس", "سبتمبر",
          "أكتوبر", "نوفمبر", "ديسمبر"],
        "", "",
        "%A %e %B %Y", "%k:%M:%S",
        "%A %e %B %Y  %k:%M:%S", "%k:%M:%S", '.'⟩),
    ("he-IL",
      ⟨["א'", "ב'", "ג'", "ד'", "ה'", "ו'", "ש'"],
        ["ראשון", "שני", "שלישי", "רביעי", "חמישי", "שישי", "שבת"],
        ["ינו", "פבר", "מרץ", "אפר", "מאי", "יונ", "יול", "אוג", "ספט", "אוק", "נוב", "דצמ"],
        ["ינואר", "פברואר", "מרץ", "אפריל", "מאי", "יוני", "יולי", "אוגוסט", "ספטמבר", "אוקטובר",
          "נובמבר", "דצמבר"],
        "AM", "PM",
        "%d/%m/%y", "%H:%M:%S",
        "%Z %H:%M:%S %Y %b %d %a", "%I:%M:%S %P", '.'⟩),
    ("hi-IN",
      ⟨["रवि", "सोम", "मंगल", "बुध", "गुरु", "शुक्र", "शनि"],
        ["रविवार", "सोमवार", "मंगलवार", "बुधवार", "गुरुवार", "शुक्रवार", "शनिवार"],
        ["जन॰", "फ़र॰", "मार्च", "अप्रैल", "मई", "जून", "जुल॰", "अग॰", "सित॰", "अक्तू॰", "नव॰",
          "दिस॰"],
        ["जनवरी", "फ़रवरी", "मार्च", "अप्रैल", "मई", "जून", "जुलाई", "अगस्त", "सितंबर", "अक्तूबर",
          "नवंबर", "दिसंबर"],
        "पूर्वाह्न", "अपराह्न",
        "%-d/%-m/%y", "%I:%M:%S %p %Z",
        "%A %d %b %Y %I:%M:%S %p %Z", "%I:%M:%S %p %Z", '.'⟩),
    ("tr-TR",
      ⟨["Paz", "Pzt", "Sal", "Çrş", "Prş", "Cum", "Cts"],
        ["Pazar", "Pazartesi", "Salı", "Çarşamba", "Perşembe", "Cuma", "Cumartesi"],
        ["Oca", "Şub", "Mar", "Nis", "May", "Haz", "Tem", "Ağu", "Eyl", "Eki", "Kas", "Ara"],
        ["Ocak", "Şubat", "Mart", "Nisan", "Mayıs", "Haziran", "Temmuz", "Ağustos", "Eylül",
          "Ekim", "Kasım", "Aralık"],
        "ÖÖ", "ÖS",
        "%d-%m-%Y", "%T",
        "%a %d %b %Y %T %Z", "%I:%M:%S %p", ','⟩),
    ("uk-UA",
      ⟨["нд", "пн", "вт", "ср", "чт", "пт", "сб"],
        ["неділя", "понеділок", "вівторок", "середа", "четвер", "п'ятниця", "субота"],
        ["січ", "лют", "бер", "кві", "тра", "чер", "лип", "сер", "вер", "жов", "лис", "гру"],
        ["січня", "лютого", "березня", "квітня", "травня", "червня", "липня", "серпня", "вересня",
          "жовтня", "листопада", "грудня"],
        "", "",
        "%d.%m.%y", "%T",
        "%a, %d-%b-%Y %T %z", "", ','⟩),
    ("el-GR",
      ⟨["Κυρ", "Δευ", "Τρι", "Τετ", "Πεμ", "Παρ", "Σαβ"],
        ["Κυριακή", "Δευτέρα", "Τρίτη", "Τετάρτη", "Πέμπτη", "Παρασκευή", "Σάββατο"],
        ["Ιαν", "Φεβ", "Μαρ", "Απρ", "Μαΐ", "Ιουν", "Ιουλ", "Αυγ", "Σεπ", "Οκτ", "Νοε", "Δεκ"],
        ["Ιανουαρίου", "Φεβρουαρίου", "Μαρτίου", "Απριλίου", "Μαΐου", "Ιουνίου", "Ιουλίου",
          "Αυγούστου", "Σεπτεμβρίου", "Οκτωβρίου", "Νοεμβρίου", "Δεκεμβρίου"],
        "πμ", "μμ",
        "%d/%m/%Y", "%I:%M:%S %p",
        "%a %d %b %Y %I:%M:%S %p %Z", "%I:%M:%S %p", ','⟩)]

/-- The region whose names a language takes by itself. -/
def regions : List (String × String) :=
  [("ar", "ar-SA"), ("de", "de-DE"), ("el", "el-GR"), ("en", "en-US"), ("es", "es-ES"),
    ("fr", "fr-FR"), ("he", "he-IL"), ("hi", "hi-IN"), ("it", "it-IT"), ("ja", "ja-JP"),
    ("ko", "ko-KR"), ("nl", "nl-NL"), ("pl", "pl-PL"), ("pt", "pt-PT"), ("ru", "ru-RU"),
    ("tr", "tr-TR"), ("uk", "uk-UA"), ("zh", "zh-CN")]

end PatternNames

/-- The names for date patterns in a locale: those of the whole tag if there are
    any, else those of its language. -/
def LanguageTag.patternNames (tag : LanguageTag) : PatternNames :=
  match PatternNames.table.lookup tag.text with
  | some names => names
  | none =>
    ((PatternNames.regions.lookup tag.language).bind fun region =>
      PatternNames.table.lookup region).getD .portable

end Phrasebook
