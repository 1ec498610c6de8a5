import Phrasebook.Locale.DataNames

/-! # Names in calendars

    What a locale calls the months and the weekdays where it writes them into a date.
    A name may itself be written with digits; those stay as they are whatever digits
    the tag asks for.
-/

namespace Phrasebook

/-- The names in a calendar: months from January, weekdays from Sunday. -/
structure CalendarNames where
  shortMonths : List String
  months : List String
  weekdays : List String
  deriving DecidableEq, Repr

namespace CalendarNames

/-- The names of months where nothing else is known: a letter and two digits. -/
def numberedMonths : List String :=
  ["M01", "M02", "M03", "M04", "M05", "M06", "M07", "M08", "M09", "M10", "M11", "M12"]

def root : CalendarNames :=
  ⟨numberedMonths, numberedMonths, ["Sun", "Mon", "Tue", "Wed", "Thu", "Fri", "Sat"]⟩

/-- The names of locales, by the names of the locales that share them. Names that
    no layout of a locale uses are left out. -/
def table : List (List String × CalendarNames) :=
  [
    (["ar"],
      ⟨[],
        ["يناير", "فبراير", "مارس", "أبريل", "مايو", "يونيو", "يوليو", "أغسطس", "سبتمبر",
          "أكتوبر", "نوفمبر", "ديسمبر"],
        ["الأحد", "الاثنين", "الثلاثاء", "الأربعاء", "الخميس", "الجمعة", "السبت"]⟩),
    (["cs"],
      ⟨[],
        ["ledna", "února", "března", "dubna", "května", "června", "července", "srpna", "září",
          "října", "listopadu", "prosince"],
        ["neděle", "pondělí", "úterý", "středa", "čtvrtek", "pátek", "sobota"]⟩),
    (["cy"],
      ⟨["Ion", "Chwef", "Maw", "Ebr", "Mai", "Meh", "Gorff", "Awst", "Medi", "Hyd", "Tach",
          "Rhag"],
        ["Ionawr", "Chwefror", "Mawrth", "Ebrill", "Mai", "Mehefin", "Gorffennaf", "Awst", "Medi",
          "Hydref", "Tachwedd", "Rhagfyr"],
        ["Dydd Sul", "Dydd Llun", "Dydd Mawrth", "Dydd Mercher", "Dydd Iau", "Dydd Gwener",
          "Dydd Sadwrn"]⟩),
    (["da"],
      ⟨["jan.", "feb.", "mar.", "apr.", "maj", "jun.", "jul.", "aug.", "sep.", "okt.", "nov.",
          "dec."],
        ["januar", "februar", "marts", "april", "maj", "juni", "juli", "august", "september",
          "oktober", "november", "december"],
        ["søndag", "mandag", "tirsdag", "onsdag", "torsdag", "fredag", "lørdag"]⟩),
    (["de"],
      ⟨[],
        ["Januar", "Februar", "März", "April", "Mai", "Juni", "Juli", "August", "September",
          "Oktober", "November", "Dezember"],
        ["Sonntag", "Montag", "Dienstag", "Mittwoch", "Donnerstag", "Freitag", "Samstag"]⟩),
    (["de-AT", "de-IT"],
      ⟨[],
        ["Jänner", "Februar", "März", "April", "Mai", "Juni", "Juli", "August", "September",
          "Oktober", "November", "Dezember"],
        ["Sonntag", "Montag", "Dienstag", "Mittwoch", "Donnerstag", "Freitag", "Samstag"]⟩),
    (["el"],
      ⟨["Ιαν", "Φεβ", "Μαρ", "Απρ", "Μαΐ", "Ιουν", "Ιουλ", "Αυγ", "Σεπ", "Οκτ", "Νοε", "Δεκ"],
        ["Ιανουαρίου", "Φεβρουαρίου", "Μαρτίου", "Απριλίου", "Μαΐου", "Ιουνίου", "Ιουλίου",
          "Αυγούστου", "Σεπτεμβρίου", "Οκτωβρίου", "Νοεμβρίου", "Δεκεμβρίου"],
        ["Κυριακή", "Δευτέρα", "Τρίτη", "Τετάρτη", "Πέμπτη", "Παρασκευή", "Σάββατο"]⟩),
    (["en"],
      ⟨["Jan", "Feb", "Mar", "Apr", "May", "Jun", "Jul", "Aug", "Sep", "Oct", "Nov", "Dec"],
        ["January", "February", "March", "April", "May", "June", "July", "August", "September",
          "October", "November", "December"],
        ["Sunday", "Monday", "Tuesday", "Wednesday", "Thursday", "Friday", "Saturday"]⟩),
    (["en-001"],
      ⟨["Jan", "Feb", "Mar", "Apr", "May", "Jun", "Jul", "Aug", "Sept", "Oct", "Nov", "Dec"],
        ["January", "February", "March", "April", "May", "June", "July", "August", "September",
          "October", "November", "December"],
        ["Sunday", "Monday", "Tuesday", "Wednesday", "Thursday", "Friday", "Saturday"]⟩),
    (["en-AU"],
      ⟨["Jan", "Feb", "Mar", "Apr", "May", "June", "July", "Aug", "Sept", "Oct", "Nov", "Dec"],
        ["January", "February", "March", "April", "May", "June", "July", "August", "September",
          "October", "November", "December"],
        ["Sunday", "Monday", "Tuesday", "Wednesday", "Thursday", "Friday", "Saturday"]⟩),
    (["es"],
      ⟨["ene", "feb", "mar", "abr", "may", "jun", "jul", "ago", "sept", "oct", "nov", "dic"],
        ["enero", "febrero", "marzo", "abril", "mayo", "junio", "julio", "agosto", "septiembre",
          "octubre", "noviembre", "diciembre"],
        ["domingo", "lunes", "martes", "miércoles", "jueves", "viernes", "sábado"]⟩),
    (["es-MX"],
      ⟨["ene", "feb", "mar", "abr", "may", "jun", "jul", "ago", "sep", "oct", "nov", "dic"],
        ["enero", "febrero", "marzo", "abril", "mayo", "junio", "julio", "agosto", "septiembre",
          "octubre", "noviembre", "diciembre"],
        ["domingo", "lunes", "martes", "miércoles", "jueves", "viernes", "sábado"]⟩),
    (["es-PE", "es-UY"],
      ⟨["ene.", "feb.", "mar.", "abr.", "may.", "jun.", "jul.", "ago.", "set.", "oct.", "nov.",
          "dic."],
        ["enero", "febrero", "marzo", "abril", "mayo", "junio", "julio", "agosto", "setiembre",
          "octubre", "noviembre", "diciembre"],
        ["domingo", "lunes", "martes", "miércoles", "jueves", "viernes", "sábado"]⟩),
    (["es-PY", "es-VE"],
      ⟨["ene.", "feb.", "mar.", "abr.", "may.", "jun.", "jul.", "ago.", "sept.", "oct.", "nov.",
          "dic."],
        ["enero", "febrero", "marzo", "abril", "mayo", "junio", "julio", "agosto", "septiembre",
          "octubre", "noviembre", "diciembre"],
        ["domingo", "lunes", "martes", "miércoles", "jueves", "viernes", "sábado"]⟩),
    (["fi"],
      ⟨[],
        ["tammikuuta", "helmikuuta", "maaliskuuta", "huhtikuuta", "toukokuuta", "kesäkuuta",
          "heinäkuuta", "elokuuta", "syyskuuta", "lokakuuta", "marraskuuta", "joulukuuta"],
        ["sunnuntaina", "maanantaina", "tiistaina", "keskiviikkona", "torstaina", "perjantaina",
          "lauantaina"]⟩),
    (["fr"],
      ⟨["janv.", "févr.", "mars", "avr.", "mai", "juin", "juil.", "août", "sept.", "oct.",
          "nov.", "déc."],
        ["janvier", "février", "mars", "avril", "mai", "juin", "juillet", "août", "septembre",
          "octobre", "novembre", "décembre"],
        ["dimanche", "lundi", "mardi", "mercredi", "jeudi", "vendredi", "samedi"]⟩),
    (["fr-CA"],
      ⟨["janv.", "févr.", "mars", "avr.", "mai", "juin", "juill.", "août", "sept.", "oct.",
          "nov.", "déc."],
        ["janvier", "février", "mars", "avril", "mai", "juin", "juillet", "août", "septembre",
          "octobre", "novembre", "décembre"],
        ["dimanche", "lundi", "mardi", "mercredi", "jeudi", "vendredi", "samedi"]⟩),
    (["fr-MA"],
      ⟨["jan.", "fév.", "mar.", "avr.", "mai", "jui.", "juil.", "août", "sept.", "oct.", "nov.",
          "déc."],
        ["janvier", "février", "mars", "avril", "mai", "juin", "juillet", "août", "septembre",
          "octobre", "novembre", "décembre"],
        ["dimanche", "lundi", "mardi", "mercredi", "jeudi", "vendredi", "samedi"]⟩),
    (["ga"],
      ⟨["Ean", "Feabh", "Márta", "Aib", "Beal", "Meith", "Iúil", "Lún", "MFómh", "DFómh", "Samh",
          "Noll"],
        ["Eanáir", "Feabhra", "Márta", "Aibreán", "Bealtaine", "Meitheamh", "Iúil", "Lúnasa",
          "Meán Fómhair", "Deireadh Fómhair", "Samhain", "Nollaig"],
        ["Dé Domhnaigh", "Dé Luain", "Dé Máirt", "Dé Céadaoin", "Déardaoin", "Dé hAoine",
          "Dé Sathairn"]⟩),
    (["he"],
      ⟨["ינו׳", "פבר׳", "מרץ", "אפר׳", "מאי", "יוני", "יולי", "אוג׳", "ספט׳", "אוק׳", "נוב׳",
          "דצמ׳"],
        ["ינואר", "פברואר", "מרץ", "אפריל", "מאי", "יוני", "יולי", "אוגוסט", "ספטמבר", "אוקטובר",
          "נובמבר", "דצמבר"],
        ["יום ראשון", "יום שני", "יום שלישי", "יום רביעי", "יום חמישי", "יום שישי", "יום שבת"]⟩),
    (["hi"],
      ⟨["जन॰", "फ़र॰", "मार्च", "अप्रैल", "मई", "जून", "जुल॰", "अग॰", "सित॰", "अक्टू॰", "नव॰",
          "दिस॰"],
        ["जनवरी", "फ़रवरी", "मार्च", "अप्रैल", "मई", "जून", "जुलाई", "अगस्त", "सितंबर", "अक्टूबर",
          "नवंबर", "दिसंबर"],
        ["रविवार", "सोमवार", "मंगलवार", "बुधवार", "गुरुवार", "शुक्रवार", "शनिवार"]⟩),
    (["hu"],
      ⟨["jan.", "febr.", "márc.", "ápr.", "máj.", "jún.", "júl.", "aug.", "szept.", "okt.",
          "nov.", "dec."],
        ["január", "február", "március", "április", "május", "június", "július", "augusztus",
          "szeptember", "október", "november", "december"],
        ["vasárnap", "hétfő", "kedd", "szerda", "csütörtök", "péntek", "szombat"]⟩),
    (["it"],
      ⟨["gen", "feb", "mar", "apr", "mag", "giu", "lug", "ago", "set", "ott", "nov", "dic"],
        ["gennaio", "febbraio", "marzo", "aprile", "maggio", "giugno", "luglio", "agosto",
          "settembre", "ottobre", "novembre", "dicembre"],
        ["domenica", "lunedì", "martedì", "mercoledì", "giovedì", "venerdì", "sabato"]⟩),
    (["ja"],
      ⟨[],
        [],
        ["日曜日", "月曜日", "火曜日", "水曜日", "木曜日", "金曜日", "土曜日"]⟩),
    (["ko"],
      ⟨[],
        ["1월", "2월", "3월", "4월", "5월", "6월", "7월", "8월", "9월", "10월", "11월", "12월"],
        ["일요일", "월요일", "화요일", "수요일", "목요일", "금요일", "토요일"]⟩),
    (["lt"],
      ⟨[],
        ["sausio", "vasario", "kovo", "balandžio", "gegužės", "birželio", "liepos", "rugpjūčio",
          "rugsėjo", "spalio", "lapkričio", "gruodžio"],
        ["sekmadienis", "pirmadienis", "antradienis", "trečiadienis", "ketvirtadienis",
          "penktadienis", "šeštadienis"]⟩),
    (["lv"],
      ⟨["janv.", "febr.", "marts", "apr.", "maijs", "jūn.", "jūl.", "aug.", "sept.", "okt.",
          "nov.", "dec."],
        ["janvāris", "februāris", "marts", "aprīlis", "maijs", "jūnijs", "jūlijs", "augusts",
          "septembris", "oktobris", "novembris", "decembris"],
        ["svētdiena", "pirmdiena", "otrdiena", "trešdiena", "ceturtdiena", "piektdiena",
          "sestdiena"]⟩),
    (["nl"],
      ⟨["jan", "feb", "mrt", "apr", "mei", "jun", "jul", "aug", "sep", "okt", "nov", "dec"],
        ["januari", "februari", "maart", "april", "mei", "juni", "juli", "augustus", "september",
          "oktober", "november", "december"],
        ["zondag", "maandag", "dinsdag", "woensdag", "donderdag", "vrijdag", "zaterdag"]⟩),
    (["nn"],
      ⟨["jan.", "feb.", "mars", "apr.", "mai", "juni", "juli", "aug.", "sep.", "okt.", "nov.",
          "des."],
        ["januar", "februar", "mars", "april", "mai", "juni", "juli", "august", "september",
          "oktober", "november", "desember"],
        ["søndag", "måndag", "tysdag", "onsdag", "torsdag", "fredag", "laurdag"]⟩),
    (["no"],
      ⟨["jan.", "feb.", "mars", "apr.", "mai", "juni", "juli", "aug.", "sep.", "okt.", "nov.",
          "des."],
        ["januar", "februar", "mars", "april", "mai", "juni", "juli", "august", "september",
          "oktober", "november", "desember"],
        ["søndag", "mandag", "tirsdag", "onsdag", "torsdag", "fredag", "lørdag"]⟩),
    (["pl"],
      ⟨["sty", "lut", "mar", "kwi", "maj", "cze", "lip", "sie", "wrz", "paź", "lis", "gru"],
        ["stycznia", "lutego", "marca", "kwietnia", "maja", "czerwca", "lipca", "sierpnia",
          "września", "października", "listopada", "grudnia"],
        ["niedziela", "poniedziałek", "wtorek", "środa", "czwartek", "piątek", "sobota"]⟩),
    (["pt"],
      ⟨["jan.", "fev.", "mar.", "abr.", "mai.", "jun.", "jul.", "ago.", "set.", "out.", "nov.",
          "dez."],
        ["janeiro", "fevereiro", "março", "abril", "maio", "junho", "julho", "agosto", "setembro",
          "outubro", "novembro", "dezembro"],
        ["domingo", "segunda-feira", "terça-feira", "quarta-feira", "quinta-feira", "sexta-feira",
          "sábado"]⟩),
    (["ro"],
      ⟨["ian.", "feb.", "mar.", "apr.", "mai", "iun.", "iul.", "aug.", "sept.", "oct.", "nov.",
          "dec."],
        ["ianuarie", "februarie", "martie", "aprilie", "mai", "iunie", "iulie", "august",
          "septembrie", "octombrie", "noiembrie", "decembrie"],
        ["duminică", "luni", "marți", "miercuri", "joi", "vineri", "sâmbătă"]⟩),
    (["ru"],
      ⟨["янв.", "февр.", "мар.", "апр.", "мая", "июн.", "июл.", "авг.", "сент.", "окт.", "нояб.",
          "дек."],
        ["января", "февраля", "марта", "апреля", "мая", "июня", "июля", "августа", "сентября",
          "октября", "ноября", "декабря"],
        ["воскресенье", "понедельник", "вторник", "среда", "четверг", "пятница", "суббота"]⟩),
    (["sl"],
      ⟨["jan.", "feb.", "mar.", "apr.", "maj", "jun.", "jul.", "avg.", "sep.", "okt.", "nov.",
          "dec."],
        ["januar", "februar", "marec", "april", "maj", "junij", "julij", "avgust", "september",
          "oktober", "november", "december"],
        ["nedelja", "ponedeljek", "torek", "sreda", "četrtek", "petek", "sobota"]⟩),
    (["sv"],
      ⟨["jan.", "feb.", "mars", "apr.", "maj", "juni", "juli", "aug.", "sep.", "okt.", "nov.",
          "dec."],
        ["januari", "februari", "mars", "april", "maj", "juni", "juli", "augusti", "september",
          "oktober", "november", "december"],
        ["söndag", "måndag", "tisdag", "onsdag", "torsdag", "fredag", "lördag"]⟩),
    (["tr"],
      ⟨["Oca", "Şub", "Mar", "Nis", "May", "Haz", "Tem", "Ağu", "Eyl", "Eki", "Kas", "Ara"],
        ["Ocak", "Şubat", "Mart", "Nisan", "Mayıs", "Haziran", "Temmuz", "Ağustos", "Eylül",
          "Ekim", "Kasım", "Aralık"],
        ["Pazar", "Pazartesi", "Salı", "Çarşamba", "Perşembe", "Cuma", "Cumartesi"]⟩),
    (["uk"],
      ⟨["січ.", "лют.", "бер.", "квіт.", "трав.", "черв.", "лип.", "серп.", "вер.", "жовт.",
          "лист.", "груд."],
        ["січня", "лютого", "березня", "квітня", "травня", "червня", "липня", "серпня", "вересня",
          "жовтня", "листопада", "грудня"],
        ["неділя", "понеділок", "вівторок", "середа", "четвер", "пʼятниця", "субота"]⟩),
    (["zh", "zh-Hant"],
      ⟨[],
        [],
        ["星期日", "星期一", "星期二", "星期三", "星期四", "星期五", "星期六"]⟩)]

end CalendarNames

def LanguageTag.calendarNames (tag : LanguageTag) : CalendarNames :=
  (tag.lookup? CalendarNames.table).getD .root

end Phrasebook
