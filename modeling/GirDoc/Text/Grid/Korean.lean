/-!
# Korean characters

The characters of the Korean coded set, in runs of cells. Each run is given by the number of its first cell
and the characters from there on.
-/

namespace GirDoc.Text.Grid.Run

/-- The characters of KS X 1001. -/
def ks1001 : List (Nat × String) :=
  [(0, "\u300088·‥8¨〃\u00ad―fG＼∼‘8:8〔8*!)±×W≠;8_XM°′8bg`o￠8;♂5∠at⌒]?<aI(§※q:6_e;606_z6J6B6→5898〓≪8_NZ`'O-8`#:aj828_F"),
    (90, "∩58￢⇒9`s:´～ˇH<46¸˛¡Uː∮`*5¤℉]vpX6.6bE38;93⊙i^_z`t8_`I8:66:bV_F6E9¶†8d[9949nL389㉿_<№㏇™㏂M℡_*®"),
    (188, "！!ZbB^N!@auㄱ!z!#ⅰ!)"), (391, "Ⅰ!)"), (408, "Α!09!&"), (440, "α!09!&"),
    (470, "─9A;?3?G/G?_d9C;?3CG/GG_tF0F?`%J,JA_o6@64606H898;898:8:8:8:8:8989!'"),
    (564, "㎕88ℓ㎘`s`&!#*!)`o_b88a/_X8a.`&8?!)_f!$a%!%_p!$\u2126㏀8_h88a9&`/88`s_m!#`x*:'=J`1"), (658, "ÆAªĦ"),
    (663, "Ĳ"), (665, "Ŀ9ØŒº[ŦŊ"), (674, "㉠!;ⓐ!9^n!.½⅓8¼9⅛!#æđðħA9<?9øœßVŧŋ5㈀!;⒜!9_^!.¹08⁴B9!#ぁ!r"), (940, "ァ!u"),
    (1034, "А!%#L!9"), (1082, "а!%Sж!9"),
    (1410, "가8::!#=!'9!$:;?8988>8:;B9>;;K8::89=89!#:!#;;?8988>889:8?8988;:;;@9@8::899:88998=8:;9=899>;;@:8>8:;?899>;"),
    (1524, "굘@9@8::!#<88998=8:;C8>J@8:;?89@;;K8::88>899>S8::89=8998;9889;9=8988;:8:;?8988>8>`w889;?8988>8:C:9>;;B8<:"),
    (1628, "꼬8:99?89988<8>C8>8K>;;?8;>S8:;>88998=?C8>8:;?8:?;;?8BS8:999<8899;V8:;?899>889:!#=89!$9988:;?8988>8:;?<Z8"),
    (1735, "넋8;98<8988=88:;?8988>8:;?8:8:;;O8:;9=899<88;;C[;;?89@8:;@99>8::8?899>K?S;;?8B8>?8;>8:;88=8998;9;;K8:;9=8"),
    (1839, "닛9<9889:!$;889!$;88:;?8988>a'889:898<8999:98:;?8988>;;C8>;O8::899;89999:;;KK?;;?89@S8:;?899>K?L>;;@99>;;"),
    (1946, "듐<>8::89=899>S8::8?89!#=8:;?8988=88:;?8988a.8:;98<8988=88:;?8988>K[8:;D>?KS;a#8:;>8<ZS;;?8;Z8::8?89@;;?8"),
    (2049, "띠;;?899>8:;?89!#;!#:;?8988>8:F9Z8:;?8988=88:;?899>8:;?8988>;D9@8:;?899>;HR?;;?899>;;@99>8:;?899>K?S8:;?:"),
    (2155, "륑>8:;?899>8:;?8998:8U8:;?899>8:9!$=8998:988:;?89!#=8>DZ8:;9=8998<88:;?8988>8:;B889<S898;9=899>;G8Z;;@99>"),
    (2262, "묜;@9@889:!#=899;98;;@9@S;;K;;?:@;;?:`l8::89=898899:!$:!$<899;:8:;?8988;:8:D`n8::89=8998=8::8?8988>8:;@98"),
    (2369, "병;:;O889;?899>;G?K?8:;?8B;O8::!#=899;89?C?S8:;D>;;?:9>8:;?89`l8:;9=89988<8:;9=8988=88:;?8988>8F`o8::8?:8"),
    (2472, "뻥>L>8F8988Z8:;?8;a.SL>8:;?:9aJL>;;?8`n8:;?899>898:!#=8988;:8:;?8988>8:;?899>;;?<>!$:898<8988<98:;?8988>8"),
    (2576, "션;?8988>;;D>889;9=899;:8:;D>;;?:8?;;?89@8:;?899>8::8?8999989K?8:;?<>8:;?899>8>?:9>8:;8>899Z8::8>8899<989"),
    (2680, "싼;?8:8=88:;?8:8SZ8:;9=8:8>;;a#O8::89=8;>8:G?K?;;?8BS8:;?8;>K?S;`t>8:;9<88B;;?C8:;?899>8:88988<88988;898:"),
    (2782, "앨?8988>8:;:<899;98;;@B8:89!#=!&9998:;?899>889;98<!%;!#;;?898?8:;889:88999<8:;?8988>8:C:9>8:;?899>8:;?899"),
    (2895, "우8:;88=899>8:;?8:8>8:;?8;>8:;?899>8:;?8999<8:;=9899!';;?:@8:;88<889!#;98:9889=89!#=8:;?8988>8:99?<>;;K8:"),
    (3006, "절9=8998=8:;?899>;;?8:8>S8:;9=89988;88>@99>K8>;;?899>8:H>8:;88=899>K?S8:;?89@;;?C8:;?899Z8::89=8998:898:9"),
    (3110, "짤:<8988>8:;?8988>;HZ8:;?8988>L>K[8:;?8999<8>C?K?;;?8W>8:;?8;>K8ZSSG:9Z8:;?8;8<88:99?89!#=8:;?8988>;99?<Z"),
    (3215, "척:;?8988>8:;?899>;G?;H>8:;?899>;;DZ;;?899>GC8:;?899>K?;O;;?899>;;?<>8:;?899Z8::88>899>8:;?899>8:;?8988>8"),
    (3319, "컁Z8::8?8988>8:;?899>;;?8988>S8:;?899>8:;?<>L>?KS8:;?899>;;D>L>8:;?899>;;?C8:;?8;Z8:;?899>8:;8>8988>8:;?8"),
    (3423, "탯88>LZ8:;9=8988>8:;?899>;G?;O8:;?899<9;OS;F9>S8:;?899>K?S8:;?8;>;;?<>8::89=89@;;?8B8:;?899>889;9=8988;:8"),
    (3527, "팬;?8988>8a&8:;?8988>8:;?899>;;?8:8>?@9@8:;?899>LZ;O;;@9@8::89=899>LZ;;?:@;;?:9>;;?89`l8:;?899>8:;<:899>8"),
    (3629, "핸;?8988>LZ8:;9=899>8:;?899>8:;?8988>;;@B8:;<:899;:8:;B9>8:F9>8:;@99>;;@9@8:;<::9>;;?<>8:;D>8:;?899>8:;?:"),
    (3733, "흉>8:9!#>899;:;;?8;>8:;?899"),
    (3854, "伽a%bkbIe6d6aua_ccn/c4暇cn8a'j4y%f7mIyN`por`xe=gqcFckc*駕刻cxb'恪c9殼wr脚yOO閣侃gfssbQa]m[>j%f0j]b=b*u'svbTeycRc6"),
    (3912, "簡mKe`:y)間乫uA曷uL碣g)葛n,蝎鞨勘mEbsoAkRb6aRipgNgRkVtdb2cobdpQ邯jy8龕匣岬甲胛鉀j/剛ptechLaee/arGfd江zrCuib*a-ejeWbdjGk/ei"),
    (3975, "鋼j(qi介`scSeuruz?>`qkPn(oFsSbxa?n(u-f]\uf900鎧es喀r9坑\uf901粳i5醵倨jjy9e2nab3dSD渠gky^距a0\uf902遽eWbJ乾agdV巾c;fC"),
    (4028, "楗腱nZwRoMsu乞fj杰bg儉dk<檢瞼鈐黔劫怯迲偈憩g#btjIg'o[膈wx隔堅牽`vg7y$c3fsz9exnf鵑抉決ha結ey訣兼慊箝謙uMct京cfa:b7a7eJCbIkpcRr.c6eta%"),
    (4095, "擎b5cBa;a(e2ngi-a[k-=`lcNgraof*Ng.a=ga`qbsgZw/k.c?kKlIa$fYdu係pXhncVfIbzmAdArGa]a'q1sackg5dVhEdWH計b0e-階uE古"),
    (4151, "叩aP`nghh^dzbngOlsfwE`tcmcNfIi+痼b+c-hHota^b5c-d>Nc2e`gOarf(\uf903辜jijpe/gPlb哭斛d>e,穀谷鵠困acptzLh2SrHoI袞鯤汨"),
    (4207, "\uf904骨供e`<cmydgpgJTgcbMe#珙s`蚣qn鞏串寡r>p[瓜nl菓ss`riegEi,nr廓槨藿郭\uf905冠官aCp>vNg#o-kbb@t0k.mDqjhr關j#刮恝gn适侊eNeg"),
    (4266, "壙qy曠roj9f_cSv1ph鑛卦掛罫乖faw)b+u[c<e8tg魁宏紘jp轟交fdkZc?p'gsa6uR[hZfayEk,dHp6gze6k-dxx+a:dcx@d9d=丘`tOaYcidmdna1"),
    (4325, "口9b@dmdH`tlLeOd0i[bsgXgF`xeqdlae`maEg:ejg>bV球k;`qgli8gif*@<blpJhXeXeSd8b7eBaAu+abh+c-eT國oT菊鞠Btp君窘o+裙qcfK"),
    (4383, "堀lou_窟宮j<穹a$w?躬倦fIbWanjh拳anvOh@眷厥獗蕨zeun机j`n$詭m.饋\uf906晷nx貴鬼\uf907叫iqfX揆rL珪m*gTBfpv.o9kchIp:勻ls畇r0xs鈞"),
    (4441, "\uf908橘克c?a+戟sxb4隙僅ena/懃k`gteU瑾t4v%cqq6dnmg饉\uf909今妗擒d&mL琴ola+zCqD8bw\uf90a錦伋n6急g+汲級a;亘hQ矜z*企DgGAm+b#bj"),
    (4498, "基9cW`za;fhbcambzb$d5h;j.Ccz8a.dT0e*brc(aI<d,q@b%;aGXbl>i1a]aA=8`yfRdRbQe]am`naN記cvc8cnpq:q-a^bT8aElT緊佶mb"),
    (4558, "拮p-金喫儺\uf90b8娜w)\uf90d拏`w\uf90e!%那\uf914!$諾\uf919!#暖\uf91d煖\uf91e8難\uf920捏`r南\uf921枏e`o2\uf922男\uf92388納"),
    (4607, "\uf9268衲囊j%\uf928!$乃\uf92d內w@柰耐\uf92e女nxr=秊念afg;bJ寧'努\uf92f奴q$c(\uf93088瑙\uf933!%駑\uf939!*濃\uf9448膿農惱"),
    (4667, "\uf9468腦\uf9488尿\uf94a!'嫩訥杻紐\uf952!%能\uf9588尼泥匿溺多茶丹alb's'dQe>sNrx`vmictgw短i1cneOzDeVyOf`撻澾k;fu達啖f.憺iIf*"),
    (4730, "淡aicQa;rN聃daj[lid+b*w$沓yoqp踏g-唐hyaEqyk$gvli當uo螳黨代yT`-eHhmb;dld6h6h4玳臺sPlT隊xX宅lYc;倒f%`wn]c^Yk6aAb-b,cZc+"),
    (4789, "悼g4agb%lSbMeXiEa8bJcOfQnUb4foay萄pliscEaDeJHa.bAg/iXdM毒l[g1a9b]kzg;篤h>讀墩x%mnb.bXq=mabB豚頓乭突仝hVXcGcv憧q9bvb&"),
    (4848, "洞g=rWf.iar&jF銅兜斗eTa&痘nfy[\uf95a豆kPwu屯臀bq遁`ue-得嶝橙v&n*nE藤o?r:z`喇懶\uf95b癩zssydbd%vN\uf95c洛k=i4絡tC\uf95d酪y6"),
    (4901, "\uf95e亂nj欄EoKel蘭鸞剌辣嵐vLa6qYnL籃g8u@jnaH拉臘r^廊xTrjpYcHaY螂郞來崍gr萊冷掠略亮d?dJaO梁dw粮:a%pOxjlph;侶dheMd4廬gabgj^o4oC礪藜"),
    (4965, "蠣閭n,?lTa&力曆n(muze轢w?憐a_iR漣f]io練gZmN輦c<iV冽aIb#洌k;裂廉sxrCl;簾獵令aAvz\uf95f岺c?gA玲v2m<a#ag逞fMn9aAbguX例澧禮醴nz勞"),
    (5026, "\uf960撈a+r&mZbQf/nNzqqtaEvJcUx4ldgjaj碌c2lHr@錄鹿K論壟r<x*zWmwvHlE儡瀨fqs'賂OQ雷了g3寮hot*燎mCdRyLn)遼鬧m5壘dPfX樓kFctu;"),
    (5086, "累cGtNlA鏤gF劉旒fXePjddBdZkyaFc8bbg&謬類六戮陸侖b,崙淪綸輪律eHt:\uf961隆勒肋凜'楞稜jyrJ陵俚g.dVafc>uflisfdAn;o4afcMal\uf962痢sI"),
    (5146, "罹a.kPoeIzB;o1n^吝潾g1hO藺y_wXq#g'林rKs'臨霖砬h&aDdY摩瑪dohQ`s馬e7j>寞gV漠膜fF邈万oetCk(dcfKeji[b*wb`scwuJ萬c&iWt?饅i%唜抹mA"),
    (5209, "沫茉rx靺亡妄rk8uQ網e1imb0b)輞db埋f%bpd%昧dZc*iy煤罵買`sju魅脈貊陌ksm4孟氓tokV$萌冪覓免a7cs棉kJ眄Ss^`t面ub滅蔑冥gGa_明b&gip?x'bi茗e:hd酩"),
    (5278, "銘鳴袂侮esd4tNmFiGiR8flcag0e;EsC9eoi&b:xCh,a8wZ`odK木p/qFmVaghg鶩歿cR夢朦蒙卯oCcEoenggDd&t.nhvcw_錨務巫kBTa.bTesctjPfD"),
    (5339, "毋ouh]dMz@kWc#gGoXfS霧rQ墨默們f4fdcS文tV紊8j*rC門dV勿沕qC味r>e3cLf8aQv3dsbDnP?ytp1iJqhpNn`uyvJ岷l&aFb5k#bC8r,buso`q緡"),
    (5399, "閔密蜜ks剝c<拍d)b:gai3gqt]but]c@dmjFbCj%迫tuhO伴l=arE拌dGbkb(lYiZgImddNbebYOec`r`xlAn]q#wSxEbt勃拔e`渤clu:跋kebHy;aD"),
    (5458, "倣aYt$g=g_fVcohOi.aj?a7difHoE磅m+j`bmbBawf%ezjuc,pVpS龐倍`-\uf963培vVisbM杯t;h]pq背Ewy8[kFg(f[o<伯a0帛柏aB白8魄幡樊un"),
    (5517, "燔jm\uf964繁tib=飜伐筏lH閥凡帆梵j`Gb$qCzluN法ut僻dtrP擘q.璧e>g0蘗闢d>\uf965卞弁變lE>br別瞥鱉hF丙exdZ屛fSv^Sdqc@wMlub[l+cS輧餠c'保"),
    (5579, "堡GkD普nne;dPcBm6d.菩nja&g(k7伏eUfra;x>l=us福wIeEetkranpz9馥gL本乶di奉h?c-8s6p2x2b<gh縫t(fMzwh7鳳不bbcVb-e`PeFaYj'd2"),
    (5639, "婦c3RaFhW\uf966扶i0`ww&cvjhzGcXi&fQ8a8b=aHcOrqh$a5Laha5i]c3lg`ojli=北]>fZg*fvb8QsPe4bajys-mkpsq2aDa,pX賁雰"),
    (5692, "\uf967佛弗aWir崩朋e^硼q6鵬丕gcg[L`nrIbvlLfbbobV`wiFf.fWfd988bw\uf968琵eTfOand+:h2d/fMb[b0asfgiWe]e`bJd6m-非ddrw嚬"),
    (5747, "嬪lir7oFc;e<gt[g'd7貧`s頻憑氷聘騁乍a-Ga)aT9a2aOc_hz=cMbtc7fGafbFeiFAf&a'dUasizfkJg&<bIhUc]a-d3euikn4d#9WaPf_cmaJ"),
    (5808, "肆dndhd*f-fOdXEbVeNayg&c<xYbzn5削\uf969朔\uf96a傘dy山zItYv,d@aiqi蒜酸q'乷撒u7pk薩三\uf96b杉e4oH芟gXj*揷澁鈒颯上h4Oa?lNaS嘗"),
    (5864, "孀bpb^d?aAMYfhumfGkvkd:aol_gLg+lJzvc@anf%al霜塞璽賽嗇\uf96c穡hHoo牲h4=\uf96d笙墅aen8bj`nbq恕ftc,e]d+a7Vc]bs犀emtwf7"),
    (5920, "緖e+dZcljtkOcSpQhN黍aB夕aGn7h6oWaN析n7淅e)yCbM蓆釋dG仙f(amlcpNb/scifa<xnizgca2a2a'e<imlWajd:eaa(auk`eaghjEgtfPe#"),
    (5976, "饍g@卨z@楔jGaTcA舌jfjwc1al雪y,剡暹np纖蟾o.y%bq攝xsm4\uf96e城f<ehmJbjcUl6a/猩bghi`mm:naSc2誠tY世nC歲e4稅csf.\uf96f貰召fzfY"),
    (6033, "宵aI9e`m-d*b(fPgel0bccfdWatcmj+aX6aznobfa:c4PwRa0b1lTqHaCaCf9o^fx俗屬束rI粟f$謖f7i8孫gqr'蓀遜y4率宋o.tKrw訟avozwj刷"),
    (6092, "\uf970灑xD鎖衰釗修khf]btb?dbeTb]cbLdLhccKa-d$b+cYa1n8d8bAc$fOh=cAb&b&bBd[czg>b.b*e^bmTbLd$drf?dFa9cOh3fQbwk'"),
    (6145, "遂a0c(ciZkQS8`u`qcGdud$a6叔myb2g6a>淑dpg$gab/肅jO巡e5Zb/pqf]dDc#cue;bUq_iJbEjxeVl6c8cceCa^nvaQt*e&n_e=戌術vTgT崇"),
    (6203, "崧a1瑟膝q:濕拾習褶a+丞a)gnf-aY承j_繩蠅陞侍jciLjlbpe#M6eDcNcqpAaaJdca%猜n=d?sJnFa(n@bg:agd[`l埴k_ijdGg]r7ghhMiW篒蝕l*k%食V伸"),
    (6267, "侁aOmiple'pKmCbO燼iflRkTlBb,eDfI[cti6mpc/\uf971迅失gRa1mr審Yk7沁\uf972深fQo.芯xN什mP\uf973雙氏亞cedul3n>hJoH牙芽c,j+dB"),
    (6321, "訝阿aug-kuaC堊mxcIavh$a#hSr8lJ鄂g1nqkAj>安cnrhiuf0眼雁bcb^iz斡謁kItX唵v+clbvwA癌菴闇壓押狎鴨仰央tHrCog秧鴦厓cli2orl,q*t@碍艾隘bC厄"),
    (6386, "扼cY液縊ip額櫻罌鶯aZ也ekdbuuw<i,oYza耶\uf974野弱\uf9758約qPdqa;ciyW\uf977佯\uf9788壤g>o5jXd%aDcj\uf97a楊bphoi%dRm5a*k%"),
    (6436, "穰\uf97b羊\uf97c襄\uf97d讓rDn4\uf97e養圄yLr2漁tfk%語馭e<l9億憶brw[臆偃wLuE焉言c9孼蘖俺d)p?go掩淹嶪業円予bh\uf97f88如\uf9828歟c="),
    (6489, "\uf984璵m0\uf985與a-c3輿U\uf986餘\uf98788亦\uf98a域vQsY\uf98b8疫z%譯\uf98d逆驛嚥die``ne$\uf98e延\uf98f8捐`2\uf991椽iy"),
    (6530, "沿bf<aQc^\uf992烟aFZ\uf993燃I\uf994硏W\uf995筵gM\uf996縯\uf997衍sQ\uf99888鉛\uf99b鳶\uf99c88悅涅\uf99f熱\uf9a08閱厭"),
    (6570, "\uf9a288染\uf9a5炎b9i/艶aK\uf9a6閻oIjo曄\uf9a7燁葉\uf9a88塋\uf9aa8嶸eH\uf9ac映a]hra$gibRd*cJb0a0Kc`b&dx\uf9ad瑛"),
    (6612, "\uf9ae瓔f+j]ll\uf9af8英v&p5\uf9b1鍈\uf9b2霙\uf9b38乂ew\uf9b5刈eh曳pAj4iomDhjxSi^`l\uf9b6裔dvcYc-\uf9b7銳\uf9b8霓c<"),
    (6652, "五ahbSc(guc5,e6ggaGbDbKeXn2\uf9b9懊jcb@aTfzk2j0c[bte5x2蜈js鰲鼇屋沃t(a4鈺溫q)eIlqk+wT兀v<擁瓮`ndB翁邕rOgf渦t'q28uJnkb6"),
    (6710, "訛婉d*F梡aNm2r]aYPm:oqf9cla,g(y]阮er曰往s9dvnXu0倭娃歪矮外m%aP猥fa\uf9ba8僥cSrMc=aXa3fB\uf9bc8嶢oTd&alaZ\uf9be曜\uf9bf橈"),
    (6764, "\uf9c0燿gD\uf9c1窈`njoNe1dW\uf9c2蟯dye.oX\uf9c3邀z)慾欲fy縟褥sK俑bsc)conwbYi_i.gixZkvbra>hehUb];聳hLdx踊pQa9\uf9c4于"),
    (6813, "佑cdbKh%:`ovKa;a@nmaWmA牛d#b@gagma0`oj$h>hUiyax迂atbEc4mjaR8勖彧sEa3f5煜z1郁uX云\uf9c5橒d3kqf0耘h'gz運raaLcH蔚鬱亐熊雄元"),
    (6872, "原d)fi6b(i'`pc>m4cVh<y@bKcxUjwcNcW苑pwt+cZ\uf9c6院f-n:月越nK位c;b,grjshN`tf?p.o?vTl,fP緯h[izaGbpfWc;bTeyorv-j[乳"),
    (6927, "侑dhaG\uf9c7唯aiq@`rh^8a0eqa.`p8hBd[e`\uf9c8柔=\uf9c9楡8j.a]\uf9ca游\uf9cb濡j,8\uf9cc瑜bl\uf9cd癒\uf9ce8維lxfqml"),
    (6970, "誘a2IirIf?+a+bfaoe4\uf9d08堉\uf9d2毓肉`p\uf9d38允x1hU\uf9d58潤lj胤贇\uf9d7鈗jO\uf9d8!#聿戎瀜絨融\uf9dc垠yxbu殷誾vylX乙q5淫蔭"),
    (7023, "陰djc:揖zd邑凝應膺鷹依alc%宜p:c/htl@hG疑g1w%hBiZgKaWg8bKrR二aH`l\uf9dd8夷bH\uf9df已cha/b]\uf9e0!#爾e6\uf9e4異aL\uf9e5移"),
    (7075, "\uf9e6而`na@g<a_\uf9e78貽-kS\uf9e98飴O\uf9eb8瀷sRzW9`w謚人>iqdT\uf9ed咽fZiJeYj'bO湮\uf9ee8絪q:\uf9f0蚓ky\uf9f1靭A"),
    (7120, "\uf9f28一dA[壹日yl逸jOqx任壬b5a>s'\uf9f48稔\uf9f6荏賃入en\uf9f788仍jszC芿仔j=gMo@a%d8><o&c$滋e]blfOdXbUi;m9haetd%f&bI"),
    (7174, "諮eh雌作jukA斫al灼a+dd綽nG酌p;sq孱棧h8kaus岑暫y_箴ae蠶雜丈bflpo3ava#algzfca@bHm&iUb;hPasaXlZi6\uf9fa獐czrleVnHaV?e2bybN"),
    (7232, "薔a*i=l]mhkJcd再ikg>mW才nzc,aEpqb-e9縡裁k_gG齋:爭箏諍xT佇>esj%oon<lGn7f0b@gvdSn6a@grqjddpycQaMe/m3g3egdyb6r-y@勣cf"),
    (7290, "嫡bxyE敵滴kO\uf9fb的kHbecqf(e0jsvge.b1alamdrFa_j?佃a&cxbLGblTqfRc#h/a<geeOe$qRk+a8k(e,hYcO?Pc`nQa.YPhP詮nGBi%"),
    (7347, "銓b&cHhWdFHbJ切截a]浙zbm5c5eE占岾eh漸dh粘霑mLj'接bl蝶丁b+Oe>PkRpBefh-庭a9ayd+gTf<a$aGbA9dmdQc`bqbtdg`oa&a.eOarhta^d$"),
    (7407, "睛ckcFalaafxbgn0vrc'eCm^Tb%b%aUaCkea?=b=ts制aJhrh/qhcAdTisnVu?祭eNs`klirf2j#ixnNa&b9cNte俎d_atbuj`z9aFlfcbc["),
    (7462, "晁bP6[dga)ceo7aHf0ama4g_gofS;ata0adf9a7aTckfNp;b@k/aZhac'e.a<d]m'b1r'族簇足r'存bI卒拙猝倧宗l.cQbRuyo#rlqoiCaIb,ii踪"),
    (7521, "踵ohb1佐w_sUbXmS罪主cSa/bb姝胄呪5e%j(g)g$c;v:bkbWa(n5a9cWd*ciiXe6t,bM`qaemLn3j7a9hrcYb@c=酎;hypS竹e;俊cv准qqlNcK晙kc"),
    (7580, "浚d#d=c_m2p;蠢w^aCrmic茁中仲衆重卽櫛楫h]葺增zGp7拯烝l[bMy:s%sPeN之pfbXgdGyFiY=dObWbPb)cbMk.c=a)gqyha/ccEkAj`aOc0bAQm0jK"),
    (7642, "\uf9fc贄bQh;直iTUlDfZ唇bdh(振c2f^9fYcmexe0dso;b2a(bQaMcga,瞋g:lJKk]icj?e2gvfQ辰aqjRh=Gb+侄m<qhbvj'桎瓆c7lRb@txoi"),
    (7698, "質byfX斟d]\uf9fd執潗緝輯n>hW徵ft澄且dkavk)fMvGan次a2磋hV\uf9fe蹉ape3捉c4着is錯d7齪撰澯fnhI`yqYd5gO粲eu讚dWv*mba+刹察z^g&紮僭h]n-"),
    (7758, "慘8b8k1站讒;倉Og3hCo*msb'eSlQbE`qa[iZnna]kci:mAsec_ddc%債uJkO`ojXl_砦pVr>d,采`u冊柵策責凄wVti處倜\uf9ff剔尺obb4bPfVbJ滌uc"),
    (7818, "脊蹠w^aK仟m3g4jhn+tOwccppatRvSjbuMckgFdWkya/e4凸i)b+徹nb澈綴輟`un_僉尖沾d$u/h'mQ`n詹a8堞e/m'p(牒igep諜eog5廳v8v;聽istq靑mT"),
    (7879, "\ufa00剃替sUdA締諦og`w體初aQgH憔c/aFq6a_a7brrtb+uFb;Db[a*sHeqaLacf7uHcB酢`pZ促tu燭qY蜀i'寸k]v2邨叢mGjrn&bthf總fjn,銃撮催崔最"),
    (7940, "墜抽c*p-aYb=ltxVi@zGdUseh`g4cTa(a@d[?aqipj2ef丑畜l(e,aFaggDsU蹙RascW春iI瑃出朮黜充忠沖蟲aZQ悴膵g-zY取aRf2l)f2炊翠aibCc&趣ke"),
    (8003, "驟jj側仄nS惻測層侈b3q/峙dmf=x6lNcHkyl=W癡k8`vjUa#dZgen,xzvdhqpf則am飭親七柒uC侵寢枕njc/sbl3針e.蟄秤a<快他q=b1jGc6uZdJarm/fV舵陀"),
    (8067, "馱`s倬iVf(fo\ufa01托\ufa02擢dpdYwC`ulZM託鐸呑eDdGwAg1歎o)aD綻誕奪脫探眈耽貪塔搭pU宕g[湯\ufa03蕩兌h+oYt]cj殆c)ao笞pwf=跆hqw`\ufa04"),
    (8124, "擇澤撑ab兎hIi>討慟u&\ufa05痛p>fV通堆槌腿vbt=x@偸z6aDz@透鬪慝特闖坡hlk-mefZa<杷p2aKnefAl%uRie跛頗判o=板版gz販i,gJl@八ga捌佩pb悖n8uSc#"),
    (8188, "牌bHu)覇iE彭澎dR膨愎便b'扁片篇fXf8遍uogK貶坪tp枰萍r_吠t]j$an`os8肺mR閉bi佈k<?9d^acf@tgfJgdMb;\ufa06泡atxRg`y[a@e>dja@kZatt`"),
    (8249, "鋪r*gs幅xv`p瀑f,\ufa07俵gg彪exqohMn`qOmU表l8飇4df品稟楓諷d:風cE彼i^疲c;被w3q2匹弼ax泌tge%`pq*vo馝乏逼下d1lxp0q(uwsBvY荷knoyjgt5"),
    (8311, "鰕壑h.虐n;鶴寒me`lp+s%hRapaf罕b2閑8bUdj割轄函feb$bB`n檻i)緘m]銜kZwa合bW盒蛤閤`waw亢aV姮c7i@g:g$nMbklle8缸dJdv\ufa088項亥e?m-hg"),
    (8373, "奚fFa9r,vfl'h3蟹eyb&adpb駭bb劾核倖幸z.荇o$享p-h$珦鄕tQcIa=a1噓g+虛kU憲櫶y4軒歇險k,奕爀赫革俔峴fihYm2sOk?h`a$a4iZ[qeVbXl;r2\ufa0a"),
    (8436, "賢p.r=孑穴血頁嫌俠jKqYk>rX浹pG脅9gz鋏p(亨h#bdpAw6泂fCcva:aNbzg6ao荊m'bVv^b1i0qt兮彗dpavok蕙zHj<qK乎a3qYm(`lariggQi>IkAaL"),
    (8497, "毫deaUavb9b3a;@acgRd<a$aueBhPjEd;hJeTeTaCdvHcTl*c2uQm#aT惑d,酷婚昏wGa6qp魂忽bt笏哄弘汞adaFk-紅虹jj鴻化d]s8樺rHo)l?`xzJd%"),
    (8558, "話bgdN靴\ufa0b擴a&確8e?丸uqk5g5幻f_igv=晥f%q5j#izx_還驩eK活e%m<豁闊凰幌dCb<b@a)Snn8j8iKe-aYb0eyj'ezoYaUu:l,zQrSx=匯k.x$"),
    (8617, "徊bo`ydJm>b4jpj)eObYi)繪j+d]jwkSfS劃獲宖橫鐄哮e'nN效a,d+eenea(mD肴酵z/侯aYjXac`ud4a+y)d4vh煦gV逅勛Op8aY焄aza[薰m2暈薨喧暄煊萱卉"),
    (8681, "喙毁彙aSlXgz煇諱lS麾休携烋mj虧恤譎鷸兇bFcQ洶胸黑昕o-p<痕吃y%紇訖欠T@吸恰洽翕fj僖cGk=bfaQiN嬉i2jd6b0lTaw熙W8c,tgaHpy詰")]

end GirDoc.Text.Grid.Run
