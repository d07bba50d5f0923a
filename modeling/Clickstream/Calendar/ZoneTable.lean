import Clickstream.Calendar.ZoneRules

/-!
# Zone table

Zones after the time zone database, as the database of a program that brings none along. Instants
count seconds from the start of year 1.
-/

namespace Clickstream

namespace ZoneTable

def utc : ZoneRules :=
  .ofSteps "UTC" (0)
    []
    []
    (.fixed (0)) (by decide)

def europeBerlin : ZoneRules :=
  .ofSteps "Europe/Berlin" (3208)
    [3600, 7200, 10800]
    [(59713542392, 0), (60441890400, 1), (60455113200, 0), (60472141200, 1), (60485446800, 0), (60503590800, 1),
      (60516896400, 0), (61196691600, 1), (61278339600, 0), (61291040400, 1), (61307370000, 0), (61323094800, 1),
      (61338819600, 0), (61354544400, 1), (61359033600, 2), (61369660800, 1), (61374416400, 0), (61387117200, 1),
      (61402323600, 0), (61417965600, 1), (61420986000, 2), (61425216000, 1), (61433686800, 0), (61450621200, 1),
      (61465136400, 0), (61481466000, 1), (61496586000, 0), (62459427600, 1), (62474547600, 0), (62490272400, 1),
      (62505997200, 0), (62521722000, 1), (62537446800, 0), (62553171600, 1), (62568896400, 0), (62584621200, 1),
      (62600950800, 0), (62616675600, 1), (62632400400, 0), (62648125200, 1), (62663850000, 0), (62679574800, 1),
      (62695299600, 0), (62711024400, 1), (62726749200, 0), (62742474000, 1), (62758198800, 0), (62773923600, 1),
      (62790253200, 0), (62805978000, 1), (62821702800, 0), (62837427600, 1), (62853152400, 0), (62868877200, 1),
      (62884602000, 0), (62900326800, 1), (62916051600, 0), (62931776400, 1), (62947501200, 0), (62956051200, 0)]
    (.yearly (3600) (7200) ⟨3, 5, 0, 7200⟩ ⟨10, 5, 0, 10800⟩) (by decide)

def europeLondon : ZoneRules :=
  .ofSteps "Europe/London" (-75)
    [0, 3600, 7200]
    [(58282934475, 0), (60443632800, 1), (60455124000, 0), (60471453600, 1), (60485450400, 0), (60501693600, 1),
      (60518109600, 0), (60533748000, 1), (60549559200, 0), (60565197600, 1), (60583428000, 0), (60597252000, 1),
      (60613063200, 0), (60628096800, 1), (60645031200, 0), (60661965600, 1), (60674666400, 0), (60692810400, 1),
      (60706720800, 0), (60724864800, 1), (60739380000, 0), (60756314400, 1), (60770829600, 0), (60787159200, 1),
      (60802279200, 0), (60819818400, 1), (60834333600, 0), (60851268000, 1), (60865783200, 0), (60882112800, 1),
      (60897232800, 0), (60914167200, 1), (60928682400, 0), (60945616800, 1), (60960132000, 0), (60976461600, 1),
      (60992186400, 0), (61009120800, 1), (61023636000, 0), (61039965600, 1), (61055085600, 0), (61072020000, 1),
      (61086535200, 0), (61103469600, 1), (61117984800, 0), (61134314400, 1), (61149434400, 0), (61166368800, 1),
      (61185117600, 0), (61193584800, 1), (61231078800, 2), (61239546000, 1), (61260109200, 2), (61270995600, 1),
      (61291558800, 2), (61303050000, 1), (61323008400, 2), (61337523600, 1), (61354544400, 2), (61363530000, 1),
      (61370791200, 0), (61387120800, 1), (61402240800, 0), (61416151200, 1), (61418566800, 2), (61428848400, 1),
      (61436109600, 0), (61447600800, 1), (61467559200, 0), (61480864800, 1), (61499008800, 0), (61513524000, 1),
      (61529853600, 0), (61544973600, 1), (61561303200, 0), (61577028000, 1), (61593357600, 0), (61608477600, 1),
      (61622992800, 0), (61639322400, 1), (61654442400, 0), (61671376800, 1), (61685892000, 0), (61703431200, 1),
      (61717946400, 0), (61734276000, 1), (61749396000, 0), (61766330400, 1), (61780845600, 0), (61797780000, 1),
      (61812295200, 0), (61828624800, 1), (61843744800, 0), (61858864800, 1), (61877613600, 0), (61890314400, 1),
      (61909063200, 0), (61922368800, 1), (61940512800, 0), (61953213600, 1), (61971962400, 0), (61984663200, 1),
      (62003412000, 0), (62016112800, 1), (62034861600, 0), (62047562400, 1), (62066916000, 0), (62076592800, 1),
      (62193319200, 0), (62205415200, 1), (62224768800, 0), (62236864800, 1), (62256218400, 0), (62268314400, 1),
      (62287668000, 0), (62299764000, 1), (62319117600, 0), (62331818400, 1), (62350567200, 0), (62363268000, 1),
      (62382016800, 0), (62394717600, 1), (62414071200, 0), (62426167200, 1), (62445520800, 0), (62457616800, 1),
      (62476970400, 0), (62490272400, 1), (62508416400, 0), (62521722000, 1), (62539866000, 0), (62553171600, 1),
      (62571315600, 0), (62584621200, 1), (62603370000, 0), (62616675600, 1), (62634819600, 0), (62648125200, 1),
      (62666269200, 0), (62679574800, 1), (62697718800, 0), (62711024400, 1), (62729168400, 0), (62742474000, 1),
      (62761222800, 0), (62773923600, 1), (62792672400, 0), (62805978000, 1), (62824122000, 0), (62837427600, 1),
      (62855571600, 0), (62868877200, 1), (62887021200, 0), (62900326800, 1), (62918470800, 0), (62931776400, 1),
      (62949920400, 0), (62956051200, 0)]
    (.yearly (0) (3600) ⟨3, 5, 0, 3600⟩ ⟨10, 5, 0, 7200⟩) (by decide)

def americaNewYork : ZoneRules :=
  .ofSteps "America/New_York" (-17762)
    [-18000, -14400]
    [(59417946000, 0), (60502316400, 1), (60520456800, 0), (60533766000, 1), (60551906400, 0), (60565215600, 1),
      (60583960800, 0), (60599084400, 1), (60612386400, 0), (60631138800, 1), (60643836000, 0), (60662588400, 1),
      (60675890400, 0), (60694038000, 1), (60707340000, 0), (60725487600, 1), (60738789600, 0), (60756937200, 1),
      (60770239200, 0), (60788386800, 1), (60801688800, 0), (60820441200, 1), (60833743200, 0), (60851890800, 1),
      (60865192800, 0), (60883340400, 1), (60896642400, 0), (60914790000, 1), (60928092000, 0), (60946239600, 1),
      (60959541600, 0), (60978294000, 1), (60990991200, 0), (61009743600, 1), (61023045600, 0), (61041193200, 1),
      (61054495200, 0), (61072642800, 1), (61085944800, 0), (61104092400, 1), (61117394400, 0), (61135542000, 1),
      (61148844000, 0), (61167596400, 1), (61180293600, 0), (61199046000, 1), (61212348000, 0), (61230495600, 1),
      (61243797600, 0), (61255378800, 1), (61370200800, 0), (61388348400, 1), (61401650400, 0), (61419798000, 1),
      (61433100000, 0), (61451247600, 1), (61464549600, 0), (61482697200, 1), (61495999200, 0), (61514751600, 1),
      (61527448800, 0), (61546201200, 1), (61559503200, 0), (61577650800, 1), (61590952800, 0), (61609100400, 1),
      (61622402400, 0), (61640550000, 1), (61653852000, 0), (61671999600, 1), (61688325600, 0), (61704054000, 1),
      (61719775200, 0), (61735503600, 1), (61751224800, 0), (61766953200, 1), (61782674400, 0), (61798402800, 1),
      (61814124000, 0), (61829852400, 1), (61846178400, 0), (61861906800, 1), (61877628000, 0), (61893356400, 1),
      (61909077600, 0), (61924806000, 1), (61940527200, 0), (61956255600, 1), (61971976800, 0), (61987705200, 1),
      (62004031200, 0), (62019154800, 1), (62035480800, 0), (62051209200, 1), (62066930400, 0), (62082658800, 1),
      (62098380000, 0), (62114108400, 1), (62129829600, 0), (62145558000, 1), (62161279200, 0), (62177007600, 1),
      (62193333600, 0), (62209062000, 1), (62224783200, 0), (62240511600, 1), (62256232800, 0), (62262284400, 1),
      (62287682400, 0), (62297967600, 1), (62319132000, 0), (62334860400, 1), (62351186400, 0), (62366310000, 1),
      (62382636000, 0), (62398364400, 1), (62414085600, 0), (62429814000, 1), (62445535200, 0), (62461263600, 1),
      (62476984800, 0), (62492713200, 1), (62508434400, 0), (62524162800, 1), (62540488800, 0), (62555612400, 1),
      (62571938400, 0), (62587666800, 1), (62603388000, 0), (62619116400, 1), (62634837600, 0), (62650566000, 1),
      (62666287200, 0), (62680201200, 1), (62697736800, 0), (62711650800, 1), (62729791200, 0), (62743100400, 1),
      (62761240800, 0), (62774550000, 1), (62792690400, 0), (62806604400, 1), (62824140000, 0), (62838054000, 1),
      (62855589600, 0), (62869503600, 1), (62887644000, 0), (62900953200, 1), (62919093600, 0), (62932402800, 1),
      (62950543200, 0), (62964457200, 1), (62981992800, 0), (62995906800, 1), (63013442400, 0), (63027356400, 1),
      (63044892000, 0), (63058806000, 1), (63076946400, 0), (63090255600, 1), (63108396000, 0), (63121705200, 1),
      (63139845600, 0), (63153759600, 1), (63171295200, 0), (63185209200, 1), (63202744800, 0), (63216658800, 1),
      (63234799200, 0), (63248108400, 1), (63266248800, 0), (63279558000, 1), (63297698400, 0), (63303206400, 0)]
    (.yearly (-18000) (-14400) ⟨3, 2, 0, 7200⟩ ⟨11, 1, 0, 7200⟩) (by decide)

def americaLosAngeles : ZoneRules :=
  .ofSteps "America/Los_Angeles" (-28378)
    [-28800, -25200]
    [(59417956800, 0), (60502327200, 1), (60520467600, 0), (60533776800, 1), (60551917200, 0), (61255389600, 1),
      (61370211600, 0), (61447629660, 1), (61472941200, 0), (61514758800, 1), (61527459600, 0), (61546208400, 1),
      (61559514000, 0), (61577658000, 1), (61590963600, 0), (61609107600, 1), (61622413200, 0), (61640557200, 1),
      (61653862800, 0), (61672006800, 1), (61685312400, 0), (61704061200, 1), (61717366800, 0), (61735510800, 1),
      (61748816400, 0), (61766960400, 1), (61780266000, 0), (61798410000, 1), (61811715600, 0), (61829859600, 1),
      (61843165200, 0), (61861914000, 1), (61874614800, 0), (61893363600, 1), (61909088400, 0), (61924813200, 1),
      (61940538000, 0), (61956262800, 1), (61971987600, 0), (61987712400, 1), (62004042000, 0), (62019162000, 1),
      (62035491600, 0), (62051220000, 1), (62066941200, 0), (62082669600, 1), (62098390800, 0), (62114119200, 1),
      (62129840400, 0), (62145568800, 1), (62161290000, 0), (62177018400, 1), (62193344400, 0), (62209072800, 1),
      (62224794000, 0), (62240522400, 1), (62256243600, 0), (62262295200, 1), (62287693200, 0), (62297978400, 1),
      (62319142800, 0), (62334871200, 1), (62351197200, 0), (62366320800, 1), (62382646800, 0), (62398375200, 1),
      (62414096400, 0), (62429824800, 1), (62445546000, 0), (62461274400, 1), (62476995600, 0), (62492724000, 1),
      (62508445200, 0), (62524173600, 1), (62540499600, 0), (62555623200, 1), (62571949200, 0), (62587677600, 1),
      (62603398800, 0), (62619127200, 1), (62634848400, 0), (62650576800, 1), (62666298000, 0), (62680212000, 1),
      (62697747600, 0), (62711661600, 1), (62729802000, 0), (62743111200, 1), (62761251600, 0), (62774560800, 1),
      (62792701200, 0), (62806615200, 1), (62824150800, 0), (62838064800, 1), (62855600400, 0), (62869514400, 1),
      (62887654800, 0), (62900964000, 1), (62919104400, 0), (62932413600, 1), (62950554000, 0), (62964468000, 1),
      (62982003600, 0), (62995917600, 1), (63013453200, 0), (63027367200, 1), (63044902800, 0), (63058816800, 1),
      (63076957200, 0), (63090266400, 1), (63108406800, 0), (63121716000, 1), (63139856400, 0), (63153770400, 1),
      (63171306000, 0), (63185220000, 1), (63202755600, 0), (63216669600, 1), (63234810000, 0), (63248119200, 1),
      (63266259600, 0), (63279568800, 1), (63297709200, 0), (63303206400, 0)]
    (.yearly (-28800) (-25200) ⟨3, 2, 0, 7200⟩ ⟨11, 1, 0, 7200⟩) (by decide)

def americaSaoPaulo : ZoneRules :=
  .ofSteps "America/Sao_Paulo" (-11188)
    [-10800, -7200]
    [(60368382388, 0), (60928639200, 1), (60944234400, 0), (60960222000, 1), (60975770400, 0), (61501777200, 1),
      (61513527600, 0), (61533313200, 1), (61543764000, 0), (61564849200, 1), (61575386400, 0), (61596471600, 1),
      (61604244000, 0), (61940170800, 1), (61951399200, 0), (61980433200, 1), (61985527200, 0), (62006698800, 1),
      (62014471200, 0), (62035642800, 1), (62046007200, 0), (62067178800, 1), (62077629600, 0), (62635345200, 1),
      (62646832800, 0), (62666190000, 1), (62675863200, 0), (62697726000, 1), (62706794400, 0), (62728570800, 1),
      (62737639200, 0), (62760020400, 1), (62770298400, 0), (62792074800, 1), (62802352800, 0), (62823524400, 1),
      (62833197600, 0), (62855578800, 1), (62864042400, 0), (62886423600, 1), (62897306400, 0), (62917873200, 1),
      (62928756000, 0), (62949322800, 1), (62959600800, 0), (62980167600, 1), (62991655200, 0), (63011703600, 1),
      (63024314400, 0), (63043671600, 1), (63055159200, 0), (63074516400, 1), (63087213600, 0), (63106570800, 1),
      (63118058400, 0), (63138625200, 1), (63149508000, 0), (63171889200, 1), (63180957600, 0), (63202129200, 1),
      (63212407200, 0), (63234961200, 1), (63244461600, 0), (63265028400, 1), (63275911200, 0), (63298292400, 1),
      (63307965600, 0), (63327927600, 1), (63338810400, 0), (63359982000, 1), (63370260000, 0), (63391431600, 1),
      (63402314400, 0), (63422881200, 1), (63433764000, 0), (63454330800, 1), (63465818400, 0), (63486385200, 1),
      (63496663200, 0), (63517834800, 1), (63528112800, 0), (63549284400, 1), (63560167200, 0), (63580734000, 1),
      (63591616800, 0), (63612183600, 1), (63623066400, 0), (63643633200, 1), (63654516000, 0), (63676897200, 1),
      (63685965600, 0)]
    (.fixed (-10800)) (by decide)

def americaHavana : ZoneRules :=
  .ofSteps "America/Havana" (-19768)
    [-19776, -18000, -14400]
    [(59611094968, 0), (60732782976, 1), (60824062800, 2), (60834600000, 1), (61202062800, 2), (61209921600, 1),
      (61233512400, 2), (61241976000, 1), (61265566800, 2), (61273425600, 1), (61359915600, 2), (61367774400, 1),
      (61391365200, 2), (61399224000, 1), (61990894800, 2), (62001345600, 1), (62022171600, 2), (62033054400, 1),
      (62049301200, 2), (62062689600, 1), (62081442000, 2), (62094139200, 1), (62114101200, 2), (62129822400, 1),
      (62145550800, 2), (62161272000, 1), (62177000400, 2), (62193326400, 1), (62209054800, 2), (62222961600, 1),
      (62240504400, 2), (62254497600, 1), (62271954000, 2), (62286033600, 1), (62303403600, 2), (62319124800, 1),
      (62334853200, 2), (62351179200, 1), (62366302800, 2), (62382628800, 1), (62398962000, 2), (62412264000, 1),
      (62426178000, 2), (62444318400, 1), (62457627600, 2), (62475768000, 1), (62493915600, 2), (62507217600, 1),
      (62525365200, 2), (62538667200, 1), (62556814800, 2), (62570116800, 1), (62588264400, 2), (62602171200, 1),
      (62619714000, 2), (62633620800, 1), (62646930000, 2), (62665070400, 1), (62678379600, 2), (62696520000, 1),
      (62710434000, 2), (62727969600, 1), (62741883600, 2), (62759419200, 1), (62774542800, 2), (62791473600, 1),
      (62806597200, 2), (62822926800, 1), (62838046800, 2), (62854376400, 1), (62869496400, 2), (62885826000, 1),
      (62900946000, 2), (62917275600, 1), (62932395600, 2), (62948725200, 1), (62964450000, 2), (62980174800, 1),
      (62995899600, 2), (63012229200, 1), (63026744400, 2), (63044888400, 1), (63058194000, 2), (63076942800, 1),
      (63090248400, 2), (63108392400, 1), (63121698000, 2), (63139842000, 1), (63153752400, 2), (63171291600, 1),
      (63185202000, 2), (63202741200, 1), (63216046800, 2), (63297694800, 1), (63309186000, 2), (63329144400, 1),
      (63341240400, 2), (63360594000, 1), (63372085200, 2), (63392043600, 1), (63404139600, 2), (63424098000, 1),
      (63436194000, 2), (63456757200, 1), (63468853200, 2), (63487602000, 1)]
    (.yearly (-18000) (-14400) ⟨3, 2, 0, 0⟩ ⟨11, 1, 0, 3600⟩) (by decide)

def americaSantiago : ZoneRules :=
  .ofSteps "America/Santiago" (-16965)
    [-18000, -16965, -14400, -10800]
    [(60242935365, 0), (60447186000, 1), (60516391365, 2), (60541790400, 1), (60799610565, 2), (60818011200, 0),
      (60831234000, 2), (60849547200, 0), (60862770000, 2), (60881083200, 0), (60894306000, 2), (60912619200, 0),
      (60925842000, 2), (60944241600, 0), (60957464400, 2), (61265044800, 0), (61270318800, 2), (61395076800, 3),
      (61398961200, 2), (61417540800, 0), (61421947200, 2), (62098977600, 3), (62111674800, 2), (62132241600, 3),
      (62143124400, 2), (62160062400, 3), (62173364400, 2), (62191512000, 3), (62204814000, 2), (62223566400, 3),
      (62236263600, 2), (62253806400, 3), (62267713200, 2), (62286465600, 3), (62299162800, 2), (62317915200, 3),
      (62331217200, 2), (62349364800, 3), (62362666800, 2), (62380814400, 3), (62394116400, 2), (62412868800, 3),
      (62425566000, 2), (62444318400, 3), (62457015600, 2), (62475768000, 3), (62489070000, 2), (62507217600, 3),
      (62520519600, 2), (62538667200, 3), (62551969200, 2), (62570116800, 3), (62583418800, 2), (62602171200, 3),
      (62614868400, 2), (62633620800, 3), (62646318000, 2), (62665070400, 3), (62680791600, 2), (62696520000, 3),
      (62709822000, 2), (62727969600, 3), (62741271600, 2), (62760024000, 3), (62772721200, 2), (62789054400, 3),
      (62804170800, 2), (62822923200, 3), (62836225200, 2), (62854372800, 3), (62867674800, 2), (62885822400, 3),
      (62899124400, 2), (62917272000, 3), (62930574000, 2), (62949326400, 3), (62962023600, 2), (62980776000, 3),
      (62995287600, 2), (63012225600, 3), (63025527600, 2), (63042465600, 3), (63058791600, 2), (63075124800, 3),
      (63088426800, 2), (63107179200, 3), (63119876400, 2), (63138628800, 3), (63151326000, 2), (63170078400, 3),
      (63182775600, 2), (63201528000, 3), (63214830000, 2), (63232977600, 3), (63246279600, 2), (63264427200, 3),
      (63277729200, 2), (63296481600, 3), (63309178800, 2), (63327931200, 3), (63342442800, 2), (63359380800, 3),
      (63372682800, 2), (63390830400, 3), (63405946800, 2), (63422280000, 3), (63440420400, 2), (63449496000, 3),
      (63471265200, 2), (63482155200, 3), (63502714800, 2), (63514209600, 3), (63534164400, 2), (63545659200, 3),
      (63598878000, 2), (63606744000, 3), (63630327600, 2), (63638193600, 3), (63661777200, 2), (63669643200, 3),
      (63690202800, 2), (63703512000, 3), (63721652400, 2), (63734961600, 3), (63753102000, 2), (63766411200, 3),
      (63784551600, 2), (63798465600, 3)]
    (.yearly (-14400) (-10800) ⟨9, 1, 6, 86400⟩ ⟨4, 1, 6, 86400⟩) (by decide)

def americaAsuncion : ZoneRules :=
  .ofSteps "America/Asuncion" (-13840)
    [-14400, -10800]
    [(60929207440, 0), (62222356800, 1), (62269614000, 0), (62316964800, 1), (62330094000, 0), (62348587200, 1),
      (62361630000, 0), (62380123200, 1), (62393166000, 0), (62411659200, 1), (62427380400, 0), (62443195200, 1),
      (62459002800, 0), (62474817600, 1), (62490538800, 0), (62506353600, 1), (62522074800, 0), (62537889600, 1),
      (62553610800, 0), (62569425600, 1), (62585233200, 0), (62601048000, 1), (62616769200, 0), (62632584000, 1),
      (62648305200, 0), (62664120000, 1), (62679841200, 0), (62695656000, 1), (62711463600, 0), (62727278400, 1),
      (62742999600, 0), (62760628800, 1), (62774535600, 0), (62790350400, 1), (62806071600, 0), (62822318400, 1),
      (62835015600, 0), (62853854400, 1), (62869143600, 0), (62885044800, 1), (62897914800, 0), (62916580800, 1),
      (62929364400, 0), (62948116800, 1), (62961246000, 0), (62980171200, 1), (62992263600, 0), (63011620800, 1),
      (63024318000, 0), (63043070400, 1), (63056372400, 0), (63074520000, 1), (63087822000, 0), (63105969600, 1),
      (63119271600, 0), (63138024000, 1), (63153745200, 0), (63166449600, 1), (63185194800, 0), (63198504000, 1),
      (63216644400, 0), (63233582400, 1), (63246279600, 0), (63265032000, 1), (63277729200, 0), (63296481600, 1),
      (63309178800, 0), (63328536000, 1), (63340628400, 0), (63359985600, 1), (63372078000, 0), (63391435200, 1),
      (63406551600, 0), (63421675200, 1), (63438001200, 0), (63453124800, 1), (63469450800, 0), (63485179200, 1),
      (63499690800, 0), (63516628800, 1), (63531140400, 0), (63548078400, 1), (63562590000, 0), (63579528000, 1),
      (63594644400, 0), (63610977600, 1), (63626094000, 0), (63642427200, 1), (63657543600, 0), (63674481600, 1),
      (63688993200, 0), (63705931200, 1), (63720442800, 0), (63737380800, 1), (63752497200, 0), (63768830400, 1),
      (63783946800, 0), (63800280000, 1), (63815396400, 0), (63831729600, 1), (63846846000, 0), (63863784000, 1)]
    (.fixed (-10800)) (by decide)

def americaStJohns : ZoneRules :=
  .ofSteps "America/St_Johns" (-12652)
    [-9052, -12652, -12600, -9000, -5400]
    [(60471466252, 0), (60485459452, 1), (60503520652, 0), (60520451452, 1), (60536946652, 0), (60545496652, 1),
      (60568309852, 0), (60584031052, 1), (60599759452, 0), (60615480652, 1), (60631813852, 0), (60646930252, 1),
      (60663263452, 0), (60678379852, 1), (60694713052, 0), (60709829452, 1), (60726162652, 0), (60741279052, 1),
      (60757612252, 0), (60773333452, 1), (60789061852, 0), (60804783052, 1), (60821116252, 0), (60836232652, 1),
      (60852565852, 0), (60867682252, 1), (60884015452, 0), (60899131852, 1), (60915465052, 0), (60930581452, 1),
      (60946914652, 0), (60962635852, 1), (60978969052, 0), (60994085452, 1), (61010418652, 0), (61025535052, 1),
      (61038675052, 2), (61041868200, 3), (61056984600, 2), (61073926200, 3), (61086623400, 2), (61105375800, 3),
      (61118073000, 2), (61136825400, 3), (61149522600, 2), (61168879800, 3), (61180972200, 2), (61200329400, 3),
      (61213026600, 2), (61231779000, 3), (61244476200, 2), (61263228600, 3), (61370195400, 2), (61389552600, 3),
      (61402249800, 2), (61421002200, 3), (61433699400, 2), (61452451800, 3), (61465149000, 2), (61483901400, 3),
      (61496598600, 2), (61515955800, 3), (61528653000, 2), (61546195800, 3), (61559497800, 2), (61577645400, 3),
      (61590947400, 2), (61609095000, 3), (61622397000, 2), (61640544600, 3), (61653846600, 2), (61671994200, 3),
      (61685296200, 2), (61704048600, 3), (61717350600, 2), (61735498200, 3), (61748800200, 2), (61766947800, 3),
      (61780249800, 2), (61798397400, 3), (61811699400, 2), (61829847000, 3), (61846173000, 2), (61861901400, 3),
      (61877622600, 2), (61893351000, 3), (61909072200, 2), (61924800600, 3), (61940521800, 2), (61956250200, 3),
      (61971971400, 2), (61987699800, 3), (62004025800, 2), (62019149400, 3), (62035475400, 2), (62051203800, 3),
      (62066925000, 2), (62082653400, 3), (62098374600, 2), (62114103000, 3), (62129824200, 2), (62145552600, 3),
      (62161273800, 2), (62177002200, 3), (62193328200, 2), (62209056600, 3), (62224777800, 2), (62240506200, 3),
      (62256227400, 2), (62271955800, 3), (62287677000, 2), (62303405400, 3), (62319126600, 2), (62334855000, 3),
      (62351181000, 2), (62366304600, 3), (62382630600, 2), (62398359000, 3), (62414080200, 2), (62429808600, 3),
      (62445529800, 2), (62461258200, 3), (62476979400, 2), (62492707800, 3), (62508429000, 2), (62524157400, 3),
      (62540483400, 2), (62555607000, 3), (62571933000, 2), (62587661400, 3), (62603382600, 2), (62619111000, 3),
      (62634832200, 2), (62650560600, 3), (62666281800, 2), (62680188660, 3), (62697724260, 2), (62711638260, 4),
      (62729775060, 2), (62743087860, 3), (62761228260, 2), (62774537460, 3), (62792677860, 2), (62806591860, 3),
      (62824127460, 2), (62838041460, 3), (62855577060, 2), (62869491060, 3), (62887631460, 2), (62900940660, 3),
      (62919081060, 2), (62932390260, 3), (62950530660, 2), (62964444660, 3), (62981980260, 2), (62995894260, 3),
      (63013429860, 2), (63027343860, 3), (63044879460, 2), (63058793460, 3), (63076933860, 2), (63090243060, 3),
      (63108383460, 2), (63121692660, 3), (63139833060, 2), (63153747060, 3), (63171282660, 2), (63185196660, 3),
      (63202732260, 2), (63216646260, 3), (63234786660, 2), (63248095860, 3), (63266236260, 2), (63279545460, 3),
      (63297685860, 2), (63309180660, 3), (63329740260, 2), (63340630260, 3), (63361189860, 2), (63372079860, 3),
      (63392639460, 2), (63404134260, 3), (63424693860, 2), (63435583860, 3), (63456150600, 2)]
    (.yearly (-12600) (-9000) ⟨3, 2, 0, 7200⟩ ⟨11, 1, 0, 7200⟩) (by decide)

def asiaKolkata : ZoneRules :=
  .ofSteps "Asia/Kolkata" (21208)
    [21200, 19270, 19800, 23400]
    [(58490359592, 0), (58979902000, 1), (60115891130, 2), (61244015400, 3), (61263538200, 2), (61272959400, 3),
      (61371451800, 2)]
    (.fixed (19800)) (by decide)

def asiaKathmandu : ZoneRules :=
  .ofSteps "Asia/Kathmandu" (20476)
    [19800, 20700]
    [(60557653124, 0), (62640498600, 1)]
    (.fixed (20700)) (by decide)

def asiaTehran : ZoneRules :=
  .ofSteps "Asia/Tehran" (12344)
    [12600, 16200, 14400, 18000]
    [(61045130056, 0), (62363417400, 1), (62381820600, 2), (62395214400, 3), (62406705600, 2), (62415172800, 0),
      (62432195400, 1), (62442127800, 0), (62458029000, 1), (62474095800, 0), (62808813000, 1), (62821078200, 0),
      (62836806600, 1), (62852700600, 0), (62868342600, 1), (62884236600, 0), (62899878600, 1), (62915772600, 0),
      (62931414600, 1), (62947308600, 0), (62962950600, 1), (62978844600, 0), (62994573000, 1), (63010467000, 0),
      (63026109000, 1), (63042003000, 0), (63057645000, 1), (63073539000, 0), (63089181000, 1), (63105075000, 0),
      (63120803400, 1), (63136697400, 0), (63152339400, 1), (63168233400, 0), (63183875400, 1), (63199769400, 0),
      (63215411400, 1), (63231305400, 0), (63247033800, 1), (63262927800, 0), (63341641800, 1), (63357535800, 0),
      (63373264200, 1), (63389158200, 0), (63404800200, 1), (63420694200, 0), (63436336200, 1), (63452230200, 0),
      (63467872200, 1), (63483766200, 0), (63499494600, 1), (63515388600, 0), (63531030600, 1), (63546924600, 0),
      (63562566600, 1), (63578460600, 0), (63594102600, 1), (63609996600, 0), (63625725000, 1), (63641619000, 0),
      (63657261000, 1), (63673155000, 0), (63688797000, 1), (63704691000, 0), (63720333000, 1), (63736227000, 0),
      (63751955400, 1), (63767849400, 0), (63783491400, 1), (63799385400, 0)]
    (.fixed (12600)) (by decide)

def asiaBeirut : ZoneRules :=
  .ofSteps "Asia/Beirut" (8520)
    [7200, 10800]
    [(59295447480, 0), (60565183200, 1), (60583410000, 0), (60597237600, 1), (60613045200, 0), (60628082400, 1),
      (60645013200, 0), (60661951200, 1), (60674648400, 0), (61735730400, 1), (61748946000, 0), (61767266400, 1),
      (61780482000, 0), (61798802400, 1), (61812018000, 0), (61830424800, 1), (61843640400, 0), (61861960800, 1),
      (61875176400, 0), (62213608800, 1), (62222331600, 0), (62240652000, 1), (62253867600, 0), (62272188000, 1),
      (62285403600, 0), (62303724000, 1), (62316939600, 0), (62335346400, 1), (62348562000, 0), (62366882400, 1),
      (62380098000, 0), (62398332000, 1), (62411547600, 0), (62587807200, 1), (62602318800, 0), (62619343200, 1),
      (62633854800, 0), (62650879200, 1), (62665390800, 0), (62682415200, 1), (62696926800, 0), (62716716000, 1),
      (62728549200, 0), (62746351200, 1), (62760085200, 0), (62777109600, 1), (62791621200, 0), (62808645600, 1),
      (62823157200, 0), (62840268000, 1), (62853742800, 0), (62868866400, 1), (62884587600, 0), (62900316000, 1),
      (62916037200, 0), (62931765600, 1), (62947486800, 0), (62963820000, 1), (62979541200, 0), (62995269600, 1),
      (63010990800, 0), (63026719200, 1), (63042440400, 0), (63050745600, 0)]
    (.yearly (7200) (10800) ⟨3, 5, 0, 0⟩ ⟨10, 5, 0, 0⟩) (by decide)

def africaCairo : ZoneRules :=
  .ofSteps "Africa/Cairo" (7509)
    [7200, 10800]
    [(59950187691, 0), (61205752800, 1), (61212488400, 0), (61229426400, 1), (61242728400, 0), (61259752800, 1),
      (61277806800, 0), (61291288800, 1), (61309774800, 0), (61322911200, 1), (61341397200, 0), (61355743200, 1),
      (61372933200, 0), (61736508000, 1), (61748946000, 0), (61767266400, 1), (61780482000, 0), (61798806000, 1),
      (61811942400, 0), (61830428400, 1), (61843564800, 0), (61861964400, 1), (61875100800, 0), (61893500400, 1),
      (61906636800, 0), (61925036400, 1), (61938172800, 0), (61956658800, 1), (61969795200, 0), (61988194800, 1),
      (62001331200, 0), (62019730800, 1), (62032953600, 0), (62051266800, 1), (62064489600, 0), (62082889200, 1),
      (62096112000, 0), (62114425200, 1), (62127648000, 0), (62145961200, 1), (62159184000, 0), (62177497200, 1),
      (62190720000, 0), (62209119600, 1), (62222342400, 0), (62240655600, 1), (62253878400, 0), (62272191600, 1),
      (62285414400, 0), (62303727600, 1), (62316950400, 0), (62335350000, 1), (62348572800, 0), (62366886000, 1),
      (62380108800, 0), (62398422000, 1), (62411644800, 0), (62429958000, 1), (62443180800, 0), (62461580400, 1),
      (62474803200, 0), (62493116400, 1), (62506339200, 0), (62531996400, 1), (62537875200, 0), (62562409200, 1),
      (62569411200, 0), (62587810800, 1), (62601033600, 0), (62619346800, 1), (62632569600, 0), (62650882800, 1),
      (62664105600, 0), (62682418800, 1), (62695641600, 0), (62714041200, 1), (62727264000, 0), (62746009200, 1),
      (62758800000, 0), (62777113200, 1), (62790336000, 0), (62808649200, 1), (62821872000, 0), (62840271600, 1),
      (62853494400, 0), (62871807600, 1), (62885030400, 0), (62903343600, 1), (62916566400, 0), (62934616800, 1),
      (62947918800, 0), (62966066400, 1), (62979368400, 0), (62997516000, 1), (63010818000, 0), (63028965600, 1),
      (63042267600, 0), (63061020000, 1), (63074322000, 0), (63092469600, 1), (63105771600, 0), (63123919200, 1),
      (63137221200, 0), (63155368800, 1), (63168670800, 0), (63186818400, 1), (63200120400, 0), (63218872800, 1),
      (63232174800, 0), (63250322400, 1), (63263624400, 0), (63281772000, 1), (63294469200, 0), (63313221600, 1),
      (63324709200, 0), (63344671200, 1), (63355554000, 0), (63376120800, 1), (63386398800, 0), (63408175200, 1),
      (63417070800, 0), (63419666400, 1), (63421477200, 0), (63535788000, 1), (63539413200, 0), (63542440800, 1),
      (63547275600, 0), (63808128000, 0)]
    (.yearly (7200) (10800) ⟨4, 5, 5, 0⟩ ⟨10, 5, 4, 86400⟩) (by decide)

def africaMonrovia : ZoneRules :=
  .ofSteps "Africa/Monrovia" (-2588)
    [-2670, 0]
    [(60531237788, 0), (62199189870, 1)]
    (.fixed (0)) (by decide)

def australiaLordHowe : ZoneRules :=
  .ofSteps "Australia/Lord_Howe" (38180)
    [36000, 37800, 41400, 39600]
    [(59771481820, 0), (62487813600, 1), (62508382200, 2), (62519869800, 1), (62540436600, 2), (62551319400, 1),
      (62571886200, 2), (62582769000, 1), (62603335800, 2), (62614218600, 1), (62634785400, 3), (62646879600, 1),
      (62665630200, 3), (62678329200, 1), (62697684600, 3), (62710383600, 1), (62729739000, 3), (62741833200, 1),
      (62761188600, 3), (62772073200, 1), (62792638200, 3), (62803522800, 1), (62824087800, 3), (62834972400, 1),
      (62855537400, 3), (62867026800, 1), (62887591800, 3), (62898476400, 1), (62919041400, 3), (62929926000, 1),
      (62950491000, 3), (62963794800, 1), (62981940600, 3), (62995244400, 1), (63013390200, 3), (63026694000, 1),
      (63044839800, 3), (63058143600, 1), (63076894200, 3), (63089593200, 1), (63102900600, 3), (63121042800, 1),
      (63139793400, 3), (63153097200, 1), (63171243000, 3), (63184546800, 1), (63202692600, 3), (63215996400, 1),
      (63234747000, 3), (63247446000, 1), (63266196600, 3), (63279500400, 1), (63297646200, 3), (63310345200, 1),
      (63329095800, 3)]
    (.yearly (37800) (39600) ⟨10, 1, 0, 7200⟩ ⟨4, 1, 0, 7200⟩) (by decide)

def australiaSydney : ZoneRules :=
  .ofSteps "Australia/Sydney" (36292)
    [36000, 39600]
    [(59771483708, 0), (60463036800, 1), (60470208000, 0), (61251955200, 1), (61259472000, 0), (61275196800, 1),
      (61290921600, 0), (61307251200, 1), (61322371200, 0), (62193283200, 1), (62203564800, 0), (62224732800, 1),
      (62235619200, 0), (62256182400, 1), (62267068800, 0), (62287632000, 1), (62298518400, 0), (62319081600, 1),
      (62330572800, 0), (62351136000, 1), (62362022400, 0), (62382585600, 1), (62393472000, 0), (62414035200, 1),
      (62424921600, 0), (62445484800, 1), (62456371200, 0), (62476934400, 1), (62487820800, 0), (62508384000, 1),
      (62522294400, 0), (62540438400, 1), (62551324800, 0), (62571888000, 1), (62582774400, 0), (62603337600, 1),
      (62614224000, 0), (62634787200, 1), (62646883200, 0), (62665632000, 1), (62678332800, 0), (62697686400, 1),
      (62710387200, 0), (62729740800, 1), (62741836800, 0), (62761190400, 1), (62772076800, 0), (62792640000, 1),
      (62803526400, 0), (62824089600, 1), (62834976000, 0), (62855539200, 1), (62867030400, 0), (62887593600, 1),
      (62898480000, 0), (62919043200, 1), (62929929600, 0), (62950492800, 1), (62963798400, 0), (62981942400, 1),
      (62995248000, 0), (63013392000, 1), (63026697600, 0), (63044841600, 1), (63058147200, 0), (63076896000, 1),
      (63089596800, 0), (63102902400, 1), (63121046400, 0), (63139795200, 1), (63153100800, 0), (63171244800, 1),
      (63184550400, 0), (63202694400, 1), (63216000000, 0), (63234748800, 1), (63247449600, 0), (63266198400, 1),
      (63279504000, 0), (63297648000, 1), (63310348800, 0), (63329097600, 1)]
    (.yearly (36000) (39600) ⟨10, 1, 0, 7200⟩ ⟨4, 1, 0, 10800⟩) (by decide)

def pacificApia : ZoneRules :=
  .ofSteps "Pacific/Apia" (45184)
    [-41216, -41400, -39600, -36000, 50400, 46800]
    [(59690172416, 0), (60273718016, 1), (61504486200, 2), (63421095600, 3), (63437349600, 2), (63452469600, 3),
      (63460836000, 4), (63468799200, 5), (63484524000, 4), (63500853600, 5), (63515973600, 4), (63532303200, 5),
      (63547423200, 4), (63563752800, 5), (63578872800, 4), (63595202400, 5), (63610322400, 4), (63626652000, 5),
      (63641772000, 4), (63658101600, 5), (63673826400, 4), (63690156000, 5), (63705276000, 4), (63721605600, 5),
      (63736725600, 4), (63753055200, 5)]
    (.fixed (46800)) (by decide)

def pacificKiritimati : ZoneRules :=
  .ofSteps "Pacific/Kiritimati" (-37760)
    [-38400, -36000, 50400]
    [(59958181760, 0), (62443219200, 1), (62924464800, 2)]
    (.fixed (50400)) (by decide)

def pacificChatham : ZoneRules :=
  .ofSteps "Pacific/Chatham" (44028)
    [44100, 45900, 49500]
    [(58943159172, 0), (61378170300, 1), (62288229600, 2), (62297906400, 1), (62319074400, 2), (62330565600, 1),
      (62351128800, 2), (62362015200, 1), (62382578400, 2), (62393464800, 1), (62414028000, 2), (62424914400, 1),
      (62445477600, 2), (62456364000, 1), (62476927200, 2), (62487813600, 1), (62508376800, 2), (62519868000, 1),
      (62540431200, 2), (62551317600, 1), (62571880800, 2), (62582767200, 1), (62603330400, 2), (62614216800, 1),
      (62634780000, 2), (62645666400, 1), (62666229600, 2), (62677116000, 1), (62697679200, 2), (62709170400, 1),
      (62729733600, 2), (62740620000, 1), (62759368800, 2), (62773279200, 1), (62790818400, 2), (62804728800, 1),
      (62822268000, 2), (62836178400, 1), (62853717600, 2), (62868232800, 1), (62885167200, 2), (62899682400, 1),
      (62916616800, 2), (62931132000, 1), (62948066400, 2), (62962581600, 1), (62980120800, 2), (62994031200, 1),
      (63011570400, 2), (63025480800, 1), (63043020000, 2), (63057535200, 1), (63074469600, 2), (63088984800, 1),
      (63105919200, 2), (63120434400, 1), (63137973600, 2), (63151884000, 1), (63169423200, 2), (63183333600, 1),
      (63200872800, 2), (63215388000, 1), (63232322400, 2), (63246837600, 1), (63263772000, 2), (63278287200, 1),
      (63295221600, 2), (63309736800, 1), (63326671200, 2)]
    (.yearly (45900) (49500) ⟨9, 5, 0, 9900⟩ ⟨4, 1, 0, 13500⟩) (by decide)

def atlanticAzores : ZoneRules :=
  .ofSteps "Atlantic/Azores" (-6160)
    [-6872, -7200, -3600, 0, 3600]
    [(59421692560, 0), (60305220000, 1), (60446048400, 2), (60457802400, 1), (60468170400, 2), (60487866000, 1),
      (60499706400, 2), (60519402000, 1), (60531242400, 2), (60550938000, 1), (60562864800, 2), (60582560400, 1),
      (60594400800, 2), (60614096400, 1), (60693152400, 2), (60707926800, 1), (60756310800, 2), (60770826000, 1),
      (60787155600, 2), (60802275600, 1), (60819210000, 2), (60834330000, 1), (60851264400, 2), (60865779600, 1),
      (60914163600, 2), (60928678800, 1), (60944403600, 2), (60960128400, 1), (61007907600, 2), (61023632400, 1),
      (61038752400, 2), (61055082000, 1), (61072016400, 2), (61086531600, 1), (61102256400, 2), (61117981200, 1),
      (61133101200, 2), (61149430800, 1), (61166365200, 2), (61185114000, 1), (61193581200, 2), (61213107600, 1),
      (61228659600, 2), (61244470800, 1), (61258294800, 2), (61261920000, 3), (61271596800, 2), (61277648400, 1),
      (61289744400, 2), (61292764800, 3), (61304256000, 2), (61309702800, 1), (61321194000, 2), (61324819200, 3),
      (61335705600, 2), (61341152400, 1), (61352643600, 2), (61356268800, 3), (61367155200, 2), (61372602000, 1),
      (61386512400, 2), (61402237200, 1), (61417972800, 2), (61433697600, 1), (61449422400, 2), (61465147200, 1),
      (61480872000, 2), (61496596800, 1), (61512321600, 2), (61528046400, 1), (61543771200, 2), (61560100800, 1),
      (61575825600, 2), (61591550400, 1), (61607275200, 2), (61623000000, 1), (61638724800, 2), (61654449600, 1),
      (61670174400, 2), (61685899200, 1), (61701624000, 2), (61717953600, 1), (61733678400, 2), (61749403200, 1),
      (61765128000, 2), (61780852800, 1), (61796577600, 2), (61812302400, 1), (61828027200, 2), (61843752000, 1),
      (61859476800, 2), (61875201600, 1), (61890926400, 2), (61907256000, 1), (61922980800, 2), (61938705600, 1),
      (61954430400, 2), (61970155200, 1), (61985880000, 2), (62001604800, 1), (62017329600, 2), (62521722000, 3),
      (62537446800, 2), (62553171600, 3), (62568896400, 2), (62584621200, 3), (62600950800, 2), (62616675600, 3),
      (62632400400, 2), (62648125200, 3), (62663850000, 2), (62679574800, 3), (62695299600, 2), (62711024400, 3),
      (62726749200, 2), (62742474000, 3), (62758198800, 2), (62773923600, 3), (62790253200, 2), (62805978000, 3),
      (62821702800, 2), (62837427600, 3), (62853152400, 2), (62861018400, 3), (62868877200, 4), (62875875600, 3),
      (62884602000, 2), (62900326800, 3), (62916051600, 2), (62931776400, 3), (62947501200, 2), (62956051200, 2)]
    (.yearly (-3600) (0) ⟨3, 5, 0, 0⟩ ⟨10, 5, 0, 3600⟩) (by decide)

def etcGmtPlus12 : ZoneRules :=
  .ofSteps "Etc/GMT+12" (-43200)
    []
    []
    (.fixed (-43200)) (by decide)

def etcGmtMinus14 : ZoneRules :=
  .ofSteps "Etc/GMT-14" (50400)
    []
    []
    (.fixed (50400)) (by decide)

def antarcticaTroll : ZoneRules :=
  .ofSteps "Antarctica/Troll" (0)
    [0]
    [(63240134400, 0)]
    (.yearly (0) (7200) ⟨3, 5, 0, 3600⟩ ⟨10, 5, 0, 10800⟩) (by decide)

def asiaTokyo : ZoneRules :=
  .ofSteps "Asia/Tokyo" (33539)
    [32400, 36000]
    [(59547884400, 0), (61451794800, 1), (61463286000, 0), (61480825200, 1), (61494735600, 0), (61515298800, 1),
      (61526185200, 0), (61546748400, 1), (61557634800, 0)]
    (.fixed (32400)) (by decide)

def est5edt : ZoneRules :=
  .ofSteps "EST5EDT" (-18000)
    [-14400, -18000]
    [(60502316400, 0), (60520456800, 1), (60533766000, 0), (60551906400, 1), (61255378800, 0), (61370200800, 1),
      (62051209200, 0), (62066930400, 1), (62082658800, 0), (62098380000, 1), (62114108400, 0), (62129829600, 1),
      (62145558000, 0), (62161279200, 1), (62177007600, 0), (62193333600, 1), (62209062000, 0), (62224783200, 1),
      (62240511600, 0), (62256232800, 1), (62262284400, 0), (62287682400, 1), (62297967600, 0), (62319132000, 1),
      (62334860400, 0), (62351186400, 1), (62366310000, 0), (62382636000, 1), (62398364400, 0), (62414085600, 1),
      (62429814000, 0), (62445535200, 1), (62461263600, 0), (62476984800, 1), (62492713200, 0), (62508434400, 1),
      (62524162800, 0), (62540488800, 1), (62555612400, 0), (62571938400, 1), (62587666800, 0), (62603388000, 1),
      (62619116400, 0), (62634837600, 1), (62650566000, 0), (62666287200, 1), (62680201200, 0), (62697736800, 1),
      (62711650800, 0), (62729791200, 1), (62743100400, 0), (62761240800, 1), (62774550000, 0), (62792690400, 1),
      (62806604400, 0), (62824140000, 1), (62838054000, 0), (62855589600, 1), (62869503600, 0), (62887644000, 1),
      (62900953200, 0), (62919093600, 1), (62932402800, 0), (62950543200, 1), (62964457200, 0), (62981992800, 1),
      (62995906800, 0), (63013442400, 1), (63027356400, 0), (63044892000, 1), (63058806000, 0), (63076946400, 1),
      (63090255600, 0), (63108396000, 1), (63121705200, 0), (63139845600, 1), (63153759600, 0), (63171295200, 1),
      (63185209200, 0), (63202744800, 1), (63216658800, 0), (63234799200, 1), (63248108400, 0), (63266248800, 1),
      (63279558000, 0), (63297698400, 1), (63303206400, 1)]
    (.yearly (-18000) (-14400) ⟨3, 2, 0, 7200⟩ ⟨11, 1, 0, 7200⟩) (by decide)

def europeParis : ZoneRules :=
  .ofSteps "Europe/Paris" (561)
    [0, 3600, 7200]
    [(60279637839, 0), (60445782000, 1), (60455199600, 0), (60470233200, 1), (60487254000, 0), (60500473200, 1),
      (60518703600, 0), (60531318000, 1), (60550153200, 0), (60561558000, 1), (60583330800, 0), (60595599600, 1),
      (60615039600, 0), (60628086000, 1), (60645020400, 0), (60664978800, 1), (60676470000, 0), (60691590000, 1),
      (60707919600, 0), (60723644400, 1), (60739369200, 0), (60756303600, 1), (60770818800, 0), (60787148400, 1),
      (60802268400, 0), (60819202800, 1), (60834322800, 0), (60851257200, 1), (60865772400, 0), (60882102000, 1),
      (60897222000, 0), (60914156400, 1), (60928671600, 0), (60944396400, 1), (60960121200, 0), (60975241200, 1),
      (60992175600, 0), (61007900400, 1), (61023625200, 0), (61038745200, 1), (61055074800, 0), (61072009200, 1),
      (61086524400, 0), (61102249200, 1), (61117974000, 0), (61133094000, 1), (61149423600, 0), (61166358000, 1),
      (61185106800, 0), (61193584800, 1), (61203160800, 2), (61278339600, 1), (61291040400, 2), (61307370000, 1),
      (61323094800, 2), (61339330800, 1), (61354544400, 2), (61368973200, 1), (62332416000, 2), (62348137200, 1),
      (62364474000, 2), (62379594000, 1), (62395923600, 2), (62411648400, 1), (62427373200, 2), (62443098000, 1),
      (62459427600, 2), (62474547600, 1), (62490272400, 2), (62505997200, 1), (62521722000, 2), (62537446800, 1),
      (62553171600, 2), (62568896400, 1), (62584621200, 2), (62600950800, 1), (62616675600, 2), (62632400400, 1),
      (62648125200, 2), (62663850000, 1), (62679574800, 2), (62695299600, 1), (62711024400, 2), (62726749200, 1),
      (62742474000, 2), (62758198800, 1), (62773923600, 2), (62790253200, 1), (62805978000, 2), (62821702800, 1),
      (62837427600, 2), (62853152400, 1), (62868877200, 2), (62884602000, 1), (62900326800, 2), (62916051600, 1),
      (62931776400, 2), (62947501200, 1), (62956051200, 1)]
    (.yearly (3600) (7200) ⟨3, 5, 0, 7200⟩ ⟨10, 5, 0, 10800⟩) (by decide)

def europeMadrid : ZoneRules :=
  .ofSteps "Europe/Madrid" (-884)
    [0, 3600, 7200]
    [(59958144000, 0), (60503670000, 1), (60518707200, 0), (60534428400, 1), (60550243200, 0), (60693145200, 1),
      (60707923200, 0), (60756303600, 1), (60770822400, 0), (60787148400, 1), (60802272000, 0), (60819206400, 1),
      (60834326400, 0), (60851257200, 1), (60865776000, 0), (61108642800, 1), (61117977600, 0), (61133698800, 1),
      (61136114400, 2), (61149506400, 1), (61181481600, 0), (61195388400, 1), (61262517600, 2), (61272975600, 1),
      (61292757600, 2), (61307276400, 1), (61324207200, 2), (61338726000, 1), (61355656800, 2), (61370175600, 1),
      (61387106400, 2), (61401625200, 1), (61483269600, 2), (61496578800, 1), (62270719200, 2), (62285842800, 1),
      (62302168800, 2), (62317292400, 1), (62332408800, 2), (62348137200, 1), (62364463200, 2), (62379586800, 1),
      (62395923600, 2), (62411648400, 1), (62427373200, 2), (62443098000, 1), (62459427600, 2), (62474547600, 1),
      (62490272400, 2), (62505997200, 1), (62521722000, 2), (62537446800, 1), (62553171600, 2), (62568896400, 1),
      (62584621200, 2), (62600950800, 1), (62616675600, 2), (62632400400, 1), (62648125200, 2), (62663850000, 1),
      (62679574800, 2), (62695299600, 1), (62711024400, 2), (62726749200, 1), (62742474000, 2), (62758198800, 1),
      (62773923600, 2), (62790253200, 1), (62805978000, 2), (62821702800, 1), (62837427600, 2), (62853152400, 1),
      (62868877200, 2), (62884602000, 1), (62900326800, 2), (62916051600, 1), (62931776400, 2), (62947501200, 1),
      (62956051200, 1)]
    (.yearly (3600) (7200) ⟨3, 5, 0, 7200⟩ ⟨10, 5, 0, 10800⟩) (by decide)

def europeRome : ZoneRules :=
  .ofSteps "Europe/Rome" (2996)
    [3600, 7200]
    [(59732031600, 0), (60444831600, 1), (60455109600, 0), (60470838000, 1), (60486645600, 0), (60500473200, 1),
      (60518700000, 0), (60531318000, 1), (60550063200, 0), (60564582000, 1), (60580303200, 0), (61203164400, 1),
      (61278339600, 0), (61291040400, 1), (61307370000, 0), (61323094800, 1), (61337523600, 0), (61354544400, 1),
      (61368879600, 0), (61384698000, 1), (61402237200, 0), (61416140400, 1), (61433679600, 0), (61446387600, 1),
      (61465136400, 0), (62021545200, 1), (62032428000, 0), (62053599600, 1), (62063881200, 0), (62085049200, 1),
      (62095330800, 0), (62117103600, 1), (62127385200, 0), (62148553200, 1), (62158834800, 0), (62179398000, 1),
      (62190284400, 0), (62211452400, 1), (62222338800, 0), (62243506800, 1), (62253788400, 0), (62274351600, 1),
      (62285238000, 0), (62306406000, 1), (62316687600, 0), (62337855600, 1), (62348137200, 0), (62368700400, 1),
      (62379586800, 0), (62400754800, 1), (62411641200, 0), (62432204400, 1), (62443090800, 0), (62459427600, 1),
      (62474547600, 0), (62490272400, 1), (62505997200, 0), (62521722000, 1), (62537446800, 0), (62553171600, 1),
      (62568896400, 0), (62584621200, 1), (62600950800, 0), (62616675600, 1), (62632400400, 0), (62648125200, 1),
      (62663850000, 0), (62679574800, 1), (62695299600, 0), (62711024400, 1), (62726749200, 0), (62742474000, 1),
      (62758198800, 0), (62773923600, 1), (62790253200, 0), (62805978000, 1), (62821702800, 0), (62837427600, 1),
      (62853152400, 0), (62868877200, 1), (62884602000, 0), (62900326800, 1), (62916051600, 0), (62931776400, 1),
      (62947501200, 0), (62956051200, 0)]
    (.yearly (3600) (7200) ⟨3, 5, 0, 7200⟩ ⟨10, 5, 0, 10800⟩) (by decide)

def europeMoscow : ZoneRules :=
  .ofSteps "Europe/Moscow" (9017)
    [9079, 12679, 16279, 14400, 10800, 18000, 7200]
    [(60447331783, 0), (60478777721, 1), (60494243321, 0), (60507631721, 2), (60516880121, 1), (60539167721, 2),
      (60541776000, 3), (60545736000, 4), (60593169600, 3), (60596103600, 5), (60610273200, 3), (60612868800, 4),
      (60644408400, 6), (60888060000, 4), (62490517200, 3), (62506324800, 4), (62522053200, 3), (62537860800, 4),
      (62553589200, 3), (62569396800, 4), (62585211600, 3), (62600943600, 4), (62616668400, 3), (62632393200, 4),
      (62648118000, 3), (62663842800, 4), (62679567600, 3), (62695292400, 4), (62711017200, 3), (62726742000, 4),
      (62742466800, 3), (62758191600, 4), (62773916400, 3), (62790246000, 4), (62821699200, 6), (62831376000, 4),
      (62837420400, 3), (62853145200, 4), (62868870000, 3), (62884594800, 4), (62900319600, 3), (62916044400, 4),
      (62931769200, 3), (62947494000, 4), (62963823600, 3), (62981967600, 4), (62995273200, 3), (63013417200, 4),
      (63026722800, 3), (63044866800, 4), (63058172400, 3), (63076921200, 4), (63089622000, 3), (63108370800, 4),
      (63121071600, 3), (63139820400, 4), (63153126000, 3), (63171270000, 4), (63184575600, 3), (63202719600, 4),
      (63216025200, 3), (63234774000, 4), (63247474800, 3), (63266223600, 4), (63278924400, 3), (63297673200, 4),
      (63310374000, 3), (63329122800, 4), (63342428400, 3), (63360572400, 4), (63373878000, 3), (63392022000, 4),
      (63405327600, 3), (63424076400, 4), (63436777200, 3), (63549871200, 4)]
    (.fixed (10800)) (by decide)

def europeDublin : ZoneRules :=
  .ofSteps "Europe/Dublin" (-1521)
    [2079, 0, 3600]
    [(60443634321, 0), (60455125521, 1), (60471453600, 2), (60485450400, 1), (60501693600, 2), (60518109600, 1),
      (60533748000, 2), (60549559200, 1), (60565197600, 2), (60583428000, 1), (60597252000, 2), (60613063200, 1),
      (60628096800, 2), (60645031200, 1), (60661965600, 2), (60674666400, 1), (60692810400, 2), (60706720800, 1),
      (60724864800, 2), (60739380000, 1), (60756314400, 2), (60770829600, 1), (60787159200, 2), (60802279200, 1),
      (60819818400, 2), (60834333600, 1), (60851268000, 2), (60865783200, 1), (60882112800, 2), (60897232800, 1),
      (60914167200, 2), (60928682400, 1), (60945616800, 2), (60960132000, 1), (60976461600, 2), (60992186400, 1),
      (61009120800, 2), (61023636000, 1), (61039965600, 2), (61055085600, 1), (61072020000, 2), (61086535200, 1),
      (61103469600, 2), (61117984800, 1), (61134314400, 2), (61149434400, 1), (61166368800, 2), (61185117600, 1),
      (61193584800, 2), (61402240800, 1), (61416151200, 2), (61436109600, 1), (61450624800, 2), (61467559200, 1),
      (61480864800, 2), (61499008800, 1), (61513524000, 2), (61529853600, 1), (61544973600, 2), (61561303200, 1),
      (61577028000, 2), (61593357600, 1), (61608477600, 2), (61622992800, 1), (61639322400, 2), (61654442400, 1),
      (61671376800, 2), (61685892000, 1), (61703431200, 2), (61717946400, 1), (61734276000, 2), (61749396000, 1),
      (61766330400, 2), (61780845600, 1), (61797780000, 2), (61812295200, 1), (61828624800, 2), (61843744800, 1),
      (61858864800, 2), (61877613600, 1), (61890314400, 2), (61909063200, 1), (61922368800, 2), (61940512800, 1),
      (61953213600, 2), (61971962400, 1), (61984663200, 2), (62003412000, 1), (62016112800, 2), (62034861600, 1),
      (62047562400, 2), (62066916000, 1), (62076592800, 2), (62193319200, 1), (62205415200, 2), (62224768800, 1),
      (62236864800, 2), (62256218400, 1), (62268314400, 2), (62287668000, 1), (62299764000, 2), (62319117600, 1),
      (62331818400, 2), (62350567200, 1), (62363268000, 2), (62382016800, 1), (62394717600, 2), (62414071200, 1),
      (62426167200, 2), (62445520800, 1), (62457616800, 2), (62476970400, 1), (62490272400, 2), (62508416400, 1),
      (62521722000, 2), (62539866000, 1), (62553171600, 2), (62571315600, 1), (62584621200, 2), (62603370000, 1),
      (62616675600, 2), (62634819600, 1), (62648125200, 2), (62666269200, 1), (62679574800, 2), (62697718800, 1),
      (62711024400, 2), (62729168400, 1), (62742474000, 2), (62761222800, 1), (62773923600, 2), (62792672400, 1),
      (62805978000, 2), (62824122000, 1), (62837427600, 2), (62855571600, 1), (62868877200, 2), (62887021200, 1),
      (62900326800, 2), (62918470800, 1), (62931776400, 2), (62949920400, 1), (62956051200, 1)]
    (.yearly (0) (3600) ⟨3, 5, 0, 3600⟩ ⟨10, 5, 0, 7200⟩) (by decide)

def americaChicago : ZoneRules :=
  .ofSteps "America/Chicago" (-21036)
    [-21600, -18000]
    [(59417949600, 0), (60502320000, 1), (60520460400, 0), (60533769600, 1), (60551910000, 0), (60571872000, 1),
      (60583964400, 0), (60596668800, 1), (60615414000, 0), (60631142400, 1), (60643839600, 0), (60662592000, 1),
      (60675894000, 0), (60694041600, 1), (60707343600, 0), (60725491200, 1), (60738793200, 0), (60756940800, 1),
      (60770242800, 0), (60788390400, 1), (60801692400, 0), (60820444800, 1), (60833746800, 0), (60851894400, 1),
      (60865196400, 0), (60883344000, 1), (60896646000, 0), (60914793600, 1), (60928095600, 0), (60946243200, 1),
      (60959545200, 0), (60978297600, 1), (60990994800, 0), (61009747200, 1), (61023049200, 0), (61041196800, 1),
      (61054498800, 0), (61067808000, 1), (61090182000, 0), (61104096000, 1), (61117398000, 0), (61135545600, 1),
      (61148847600, 0), (61167600000, 1), (61180297200, 0), (61199049600, 1), (61212351600, 0), (61230499200, 1),
      (61243801200, 0), (61255382400, 1), (61370204400, 0), (61388352000, 1), (61401654000, 0), (61419801600, 1),
      (61433103600, 0), (61451251200, 1), (61464553200, 0), (61482700800, 1), (61496002800, 0), (61514755200, 1),
      (61527452400, 0), (61546204800, 1), (61559506800, 0), (61577654400, 1), (61590956400, 0), (61609104000, 1),
      (61622406000, 0), (61640553600, 1), (61653855600, 0), (61672003200, 1), (61688329200, 0), (61704057600, 1),
      (61719778800, 0), (61735507200, 1), (61751228400, 0), (61766956800, 1), (61782678000, 0), (61798406400, 1),
      (61814127600, 0), (61829856000, 1), (61846182000, 0), (61861910400, 1), (61877631600, 0), (61893360000, 1),
      (61909081200, 0), (61924809600, 1), (61940530800, 0), (61956259200, 1), (61971980400, 0), (61987708800, 1),
      (62004034800, 0), (62019158400, 1), (62035484400, 0), (62051212800, 1), (62066934000, 0), (62082662400, 1),
      (62098383600, 0), (62114112000, 1), (62129833200, 0), (62145561600, 1), (62161282800, 0), (62177011200, 1),
      (62193337200, 0), (62209065600, 1), (62224786800, 0), (62240515200, 1), (62256236400, 0), (62262288000, 1),
      (62287686000, 0), (62297971200, 1), (62319135600, 0), (62334864000, 1), (62351190000, 0), (62366313600, 1),
      (62382639600, 0), (62398368000, 1), (62414089200, 0), (62429817600, 1), (62445538800, 0), (62461267200, 1),
      (62476988400, 0), (62492716800, 1), (62508438000, 0), (62524166400, 1), (62540492400, 0), (62555616000, 1),
      (62571942000, 0), (62587670400, 1), (62603391600, 0), (62619120000, 1), (62634841200, 0), (62650569600, 1),
      (62666290800, 0), (62680204800, 1), (62697740400, 0), (62711654400, 1), (62729794800, 0), (62743104000, 1),
      (62761244400, 0), (62774553600, 1), (62792694000, 0), (62806608000, 1), (62824143600, 0), (62838057600, 1),
      (62855593200, 0), (62869507200, 1), (62887647600, 0), (62900956800, 1), (62919097200, 0), (62932406400, 1),
      (62950546800, 0), (62964460800, 1), (62981996400, 0), (62995910400, 1), (63013446000, 0), (63027360000, 1),
      (63044895600, 0), (63058809600, 1), (63076950000, 0), (63090259200, 1), (63108399600, 0), (63121708800, 1),
      (63139849200, 0), (63153763200, 1), (63171298800, 0), (63185212800, 1), (63202748400, 0), (63216662400, 1),
      (63234802800, 0), (63248112000, 1), (63266252400, 0), (63279561600, 1), (63297702000, 0), (63303206400, 0)]
    (.yearly (-21600) (-18000) ⟨3, 2, 0, 7200⟩ ⟨11, 1, 0, 7200⟩) (by decide)

def americaDenver : ZoneRules :=
  .ofSteps "America/Denver" (-25196)
    [-25200, -21600]
    [(59417953200, 0), (60502323600, 1), (60520464000, 0), (60533773200, 1), (60551913600, 0), (60565222800, 1),
      (60583968000, 0), (60596672400, 1), (60601507200, 0), (61255386000, 1), (61370208000, 0), (61987712400, 1),
      (62004038400, 0), (62019162000, 1), (62035488000, 0), (62051216400, 1), (62066937600, 0), (62082666000, 1),
      (62098387200, 0), (62114115600, 1), (62129836800, 0), (62145565200, 1), (62161286400, 0), (62177014800, 1),
      (62193340800, 0), (62209069200, 1), (62224790400, 0), (62240518800, 1), (62256240000, 0), (62262291600, 1),
      (62287689600, 0), (62297974800, 1), (62319139200, 0), (62334867600, 1), (62351193600, 0), (62366317200, 1),
      (62382643200, 0), (62398371600, 1), (62414092800, 0), (62429821200, 1), (62445542400, 0), (62461270800, 1),
      (62476992000, 0), (62492720400, 1), (62508441600, 0), (62524170000, 1), (62540496000, 0), (62555619600, 1),
      (62571945600, 0), (62587674000, 1), (62603395200, 0), (62619123600, 1), (62634844800, 0), (62650573200, 1),
      (62666294400, 0), (62680208400, 1), (62697744000, 0), (62711658000, 1), (62729798400, 0), (62743107600, 1),
      (62761248000, 0), (62774557200, 1), (62792697600, 0), (62806611600, 1), (62824147200, 0), (62838061200, 1),
      (62855596800, 0), (62869510800, 1), (62887651200, 0), (62900960400, 1), (62919100800, 0), (62932410000, 1),
      (62950550400, 0), (62964464400, 1), (62982000000, 0), (62995914000, 1), (63013449600, 0), (63027363600, 1),
      (63044899200, 0), (63058813200, 1), (63076953600, 0), (63090262800, 1), (63108403200, 0), (63121712400, 1),
      (63139852800, 0), (63153766800, 1), (63171302400, 0), (63185216400, 1), (63202752000, 0), (63216666000, 1),
      (63234806400, 0), (63248115600, 1), (63266256000, 0), (63279565200, 1), (63297705600, 0), (63303206400, 0)]
    (.yearly (-25200) (-21600) ⟨3, 2, 0, 7200⟩ ⟨11, 1, 0, 7200⟩) (by decide)

def americaToronto : ZoneRules :=
  .ofSteps "America/Toronto" (-19052)
    [-18000, -14400]
    [(59768860652, 0), (60503526000, 1), (60520456800, 0), (60533843400, 1), (60551899200, 0), (60568239600, 1),
      (60580929600, 0), (60600898800, 1), (60611522400, 0), (60632348400, 1), (60643231200, 0), (60663798000, 1),
      (60674680800, 0), (60694642800, 1), (60706735200, 0), (60726092400, 1), (60738184800, 0), (60757542000, 1),
      (60769634400, 0), (60788991600, 1), (60801688800, 0), (60820441200, 1), (60833743200, 0), (60851890800, 1),
      (60865192800, 0), (60883340400, 1), (60896642400, 0), (60914790000, 1), (60928092000, 0), (60946844400, 1),
      (60959541600, 0), (60978294000, 1), (60991596000, 0), (61009743600, 1), (61023045600, 0), (61041193200, 1),
      (61054495200, 0), (61072642800, 1), (61085944800, 0), (61104092400, 1), (61117394400, 0), (61135542000, 1),
      (61148844000, 0), (61167596400, 1), (61180293600, 0), (61199046000, 1), (61370200800, 0), (61388348400, 1),
      (61401650400, 0), (61419798000, 1), (61433100000, 0), (61451247600, 1), (61464549600, 0), (61482697200, 1),
      (61501442400, 0), (61514751600, 1), (61532892000, 0), (61546201200, 1), (61559503200, 0), (61577650800, 1),
      (61590952800, 0), (61609100400, 1), (61622402400, 0), (61640550000, 1), (61653852000, 0), (61671999600, 1),
      (61685301600, 0), (61704054000, 1), (61717356000, 0), (61735503600, 1), (61751224800, 0), (61766953200, 1),
      (61782674400, 0), (61798402800, 1), (61814124000, 0), (61829852400, 1), (61846178400, 0), (61861906800, 1),
      (61877628000, 0), (61893356400, 1), (61909077600, 0), (61924806000, 1), (61940527200, 0), (61956255600, 1),
      (61971976800, 0), (61987705200, 1), (62004031200, 0), (62019154800, 1), (62035480800, 0), (62051209200, 1),
      (62066930400, 0), (62082658800, 1), (62098380000, 0), (62114108400, 1), (62129829600, 0), (62145558000, 1),
      (62161279200, 0), (62177007600, 1), (62193333600, 0), (62209062000, 1), (62224783200, 0), (62240511600, 1),
      (62256232800, 0), (62271961200, 1), (62287682400, 0), (62303410800, 1), (62319132000, 0), (62334860400, 1),
      (62351186400, 0), (62366310000, 1), (62382636000, 0), (62398364400, 1), (62414085600, 0), (62429814000, 1),
      (62445535200, 0), (62461263600, 1), (62476984800, 0), (62492713200, 1), (62508434400, 0), (62524162800, 1),
      (62540488800, 0), (62555612400, 1), (62571938400, 0), (62587666800, 1), (62603388000, 0), (62619116400, 1),
      (62634837600, 0), (62650566000, 1), (62666287200, 0), (62680201200, 1), (62697736800, 0), (62711650800, 1),
      (62729791200, 0), (62743100400, 1), (62761240800, 0), (62774550000, 1), (62792690400, 0), (62806604400, 1),
      (62824140000, 0), (62838054000, 1), (62855589600, 0), (62869503600, 1), (62887644000, 0), (62900953200, 1),
      (62919093600, 0), (62932402800, 1), (62950543200, 0), (62964457200, 1), (62981992800, 0), (62995906800, 1),
      (63013442400, 0), (63027356400, 1), (63044892000, 0), (63058806000, 1), (63076946400, 0), (63090255600, 1),
      (63108396000, 0), (63121705200, 1), (63139845600, 0), (63153759600, 1), (63171295200, 0), (63185209200, 1),
      (63202744800, 0), (63216658800, 1), (63234799200, 0), (63248108400, 1), (63266248800, 0), (63279558000, 1),
      (63297698400, 0), (63303206400, 0)]
    (.yearly (-18000) (-14400) ⟨3, 2, 0, 7200⟩ ⟨11, 1, 0, 7200⟩) (by decide)

def asiaShanghai : ZoneRules :=
  .ofSteps "Asia/Shanghai" (29143)
    [28800, 32400]
    [(59958114857, 0), (60534921600, 1), (60549692400, 0), (61201929600, 1), (61213503600, 0), (61226726400, 1),
      (61246767600, 0), (61254547200, 1), (61367727600, 0), (61389763200, 1), (61401769200, 0), (61418707200, 1),
      (61435983600, 0), (61451712000, 1), (61464927600, 0), (61483248000, 1), (61485577200, 0), (62651124000, 1),
      (62662611600, 0), (62680759200, 1), (62694061200, 0), (62712813600, 1), (62725510800, 0), (62744263200, 1),
      (62757565200, 0), (62775712800, 1), (62789014800, 0), (62807162400, 1), (62820464400, 0)]
    (.fixed (28800)) (by decide)

def asiaSingapore : ZoneRules :=
  .ofSteps "Asia/Singapore" (24925)
    [25200, 26400, 27000, 32400, 28800]
    [(60097395875, 0), (60967962000, 1), (61241416800, 2), (61255931400, 3), (61368591600, 2), (62514259200, 4)]
    (.fixed (28800)) (by decide)

def asiaDubai : ZoneRules :=
  .ofSteps "Asia/Dubai" (13272)
    [14400]
    [(60557660328, 0)]
    (.fixed (14400)) (by decide)

def pacificAuckland : ZoneRules :=
  .ofSteps "Pacific/Auckland" (41944)
    [41400, 45000, 43200, 46800]
    [(58943161256, 0), (60805261800, 1), (60815539800, 0), (60834897000, 2), (60848200800, 0), (60866346600, 2),
      (60879650400, 0), (60897796200, 2), (60911100000, 0), (60929245800, 2), (60943154400, 0), (60960695400, 2),
      (60974604000, 0), (60992145000, 2), (61009682400, 0), (61022989800, 2), (61041132000, 0), (61054439400, 2),
      (61072581600, 0), (61085889000, 2), (61104031200, 0), (61117338600, 2), (61135480800, 0), (61148788200, 2),
      (61167535200, 0), (61180237800, 2), (61198984800, 0), (61212292200, 2), (62288229600, 3), (62297906400, 2),
      (62319074400, 3), (62330565600, 2), (62351128800, 3), (62362015200, 2), (62382578400, 3), (62393464800, 2),
      (62414028000, 3), (62424914400, 2), (62445477600, 3), (62456364000, 2), (62476927200, 3), (62487813600, 2),
      (62508376800, 3), (62519868000, 2), (62540431200, 3), (62551317600, 2), (62571880800, 3), (62582767200, 2),
      (62603330400, 3), (62614216800, 2), (62634780000, 3), (62645666400, 2), (62666229600, 3), (62677116000, 2),
      (62697679200, 3), (62709170400, 2), (62729733600, 3), (62740620000, 2), (62759368800, 3), (62773279200, 2),
      (62790818400, 3), (62804728800, 2), (62822268000, 3), (62836178400, 2), (62853717600, 3), (62868232800, 2),
      (62885167200, 3), (62899682400, 2), (62916616800, 3), (62931132000, 2), (62948066400, 3), (62962581600, 2),
      (62980120800, 3), (62994031200, 2), (63011570400, 3), (63025480800, 2), (63043020000, 3), (63057535200, 2),
      (63074469600, 3), (63088984800, 2), (63105919200, 3), (63120434400, 2), (63137973600, 3), (63151884000, 2),
      (63169423200, 3), (63183333600, 2), (63200872800, 3), (63215388000, 2), (63232322400, 3), (63246837600, 2),
      (63263772000, 3), (63278287200, 2), (63295221600, 3), (63309736800, 2), (63326671200, 3)]
    (.yearly (43200) (46800) ⟨9, 5, 0, 7200⟩ ⟨4, 1, 0, 10800⟩) (by decide)

def pacificHonolulu : ZoneRules :=
  .ofSteps "Pacific/Honolulu" (-37886)
    [-37800, -34200, -36000]
    [(59801495486, 0), (60978313800, 1), (60980160600, 0), (61255398600, 1), (61370220600, 0), (61423446600, 2)]
    (.fixed (-36000)) (by decide)

def etcUtc : ZoneRules :=
  .ofSteps "Etc/UTC" (0)
    []
    []
    (.fixed (0)) (by decide)

/-- All known zones. -/
def all : List ZoneRules :=
  [utc, europeBerlin, europeLondon, americaNewYork, americaLosAngeles, americaSaoPaulo,
   americaHavana, americaSantiago, americaAsuncion, americaStJohns, asiaKolkata, asiaKathmandu,
   asiaTehran, asiaBeirut, africaCairo, africaMonrovia, australiaLordHowe, australiaSydney,
   pacificApia, pacificKiritimati, pacificChatham, atlanticAzores, etcGmtPlus12, etcGmtMinus14,
   antarcticaTroll, asiaTokyo, est5edt, europeParis, europeMadrid, europeRome, europeMoscow,
   europeDublin, americaChicago, americaDenver, americaToronto, asiaShanghai, asiaSingapore,
   asiaDubai, pacificAuckland, pacificHonolulu, etcUtc]

/-- The zone with a name. Names are case-sensitive and are not normalised. -/
def find? (name : String) : Option Zone :=
  (all.find? fun z => z.name == name).map ZoneRules.toZone

/-- The database of the table. -/
instance database : ZoneDatabase :=
  ⟨find?⟩

end ZoneTable

end Clickstream
