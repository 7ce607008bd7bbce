/-!
# Japanese characters

The characters of the Japanese coded sets, in runs of cells. Each run is given by the number of its first
cell and the characters from there on.
-/

namespace GirDoc.Text.Grid.Run

/-- The characters of JIS X 0208. -/
def jis0208 : List (Nat × String) :=
  [(0, "\u300088，9・：8;`)゛8´｀¨＾b<^Sヽ8_>8〃仝々88c4―2／`t〜‖｜…6*8:8（8〔8［9U9〈!)＋−±×W＝≠＜9≦8_VMl55°′8bg￥]n¢8％5:;M§☆6_e;606_z6J"),
    (98, "▲B6※〒→589〓"), (119, "∈:aj828_F6"), (135, "∧8¬⇒9`s:"), (153, "∠at⌒]?<aI(O8_NZ`'O-8"),
    (175, "\u212b]TrV54†8¶"), (187, "◯"), (203, "０!)"), (220, "Ａ!9"), (252, "ａ!9"), (282, "ぁ!r"), (376, "ァ!u"),
    (470, "Α!09!&"), (502, "α!09!&"), (564, "А!%#L!9"), (612, "а!%Sж!9"), (658, "─9A;?3?G/G?_d9C;?3CG/GG_tF0F?`%J,JA"),
    (1410, "亜s9nd阿哀愛fD姶逢葵茜穐悪if渥旭葦芦鯵梓圧斡扱宛姐虻飴絢aK鮎或粟袷安i[m#jee@闇eU杏以`la2a?bCshg$b4`tf?nM`waPmrhyvlmdXmZk1a1h[izm$h&or`l医"),
    (1479, "井G域育郁磯一壱溢逸稲zM^Z鰯允ffd4[f6iJo9飲淫胤lp院E`wdB吋`/vK烏羽迂u5卯鵜窺丑碓臼渦嘘];欝蔚鰻姥厩浦v-閏噂云運sf荏餌叡edpAlhsnbjcPl[bRa%uAgLj]頴英p1"),
    (1554, "詠y<液wXc^駅悦謁ghx/榎厭円pSc]cSgOiqcqjXa:yzg4daaua4akdQ縁mDaJhM遠f2鴛塩於s]yz凹uDa&r2aKhgimlWc<b$w6翁襖鴬`)eE岡沖荻億屋p2臆桶牡乙"),
    (1619, "俺jU恩温穏音下o*仮aV`/aS_q加d6fQi5eAc4`r科暇cTQjmdNk7j.q:`xamd2u9`q`pabag`+jjj#嘩貨imaWt7蚊俄峨oH牙hi臥bolhq1雅g-bY介a>解回dS"),
    (1682, "壊rHc/a.aY_mdUa1bUgH魁晦g)n>i(nScytVoOos開cB貝凱bdro咳tgdJlywylT碍蓋jcfR鎧tx浬馨蛙垣柿蛎鈎劃l+各廓l5egjZ3jZvnoge@覚a'jpe'eyn-"),
    (1745, "隔bl学d4楽額8掛笠樫aC梶鰍潟割iZ恰g[活bcba葛n,rK且鰹叶椛c^鞄株兜竃蒲釜e?噛鴨栢茅ck粥刈苅瓦乾cDfT寒刊beF巻喚goeKe5Ca2gv>faaka3aJfTdngNaqb>g#LcC"),
    (1818, "漢ad_Mp2aWeZ`oksb9aoeWd4bQbDeXcwr,cXenkXkLd)5HbZdUd<舘丸qby<cS玩h*c/岩翫贋雁d7a2;企Dm2fbbcdyd4eQbRbcdcaad5lIj#旗B"),
    (1877, "期e;0e*帰毅aAaUzYkH季稀i/徽規axh#bZd<a@飢ckcm亀f4aryBf@sRa@gKreuuhxk5ryxYhHbK掬菊鞠吉1e7桔f;詰砧杵黍却x5脚oU逆丘`taqa9n0a]v-j<"),
    (1941, "急oKf#o$`wa`jljbs2a'aIfI`+aW旧牛去y9e2naEa(渠虚kVk+o:漁禦魚亨:8c.<cpae競共atdE_laMa[ePh^m-g5Jc$XTh9fqnigUqp`rnyz`DcB"),
    (2003, "蕎郷hqlEd?cB仰ht尭暁hs局曲gb玉桐粁僅fVm2sv錦斤pFQzNola+dug^nfcRn*bweimgf7吟銀九ehk.^L狗bVlz苦躯駆9A具愚虞喰空偶寓遇rU串櫛釧屑.u_窟沓靴轡窪熊隈粂"),
    (2077, "栗繰桑鍬勲ch薫m7群軍fK卦袈祁係c;d:^*l6ei珪型eUr(Yc0c@(a1f@awcqcBebq@ubnNhEa@a<bIc_jza+jZijaJcBjnztp<芸迎鯨劇戟gC激隙桁傑欠dAha穴"),
    (2142, "結血er月件d*$a.cVbS`risdOc5hNlUh?a5c:anpqcLx[`vaqn]aJo)県肩z9dueXf'dxiAi4ejeMm4元g;K幻bB減adnkai絃nkw(c9限乎eLkXb/g]"),
    (2201, "姑dzglbQaki@i<gIsfmI糊袴股a/i>g=l`j8lvm_e/sk五5ajlbc@,q`p$Lc=wgev瑚lN語=bjr0乞鯉交bo`zaY4crZcrQa4b3a8`u4dbeWa@ejef"),
    (2262, "孝`yg59GapBNTaPcyc9d2a0bfe#b^a0bHahbKaecsgsbba.b]a]sTd<etebh(`lJa5aBgC%bC9b:a*b2cgnqLhAdnaIkMbBc;砿鋼h/b@eG"),
    (2320, "香d&gB剛a?d3HnD拷濠豪i$麹克c/fFh:穀酷鵠dY獄漉腰甑忽bt骨狛込此頃今x-acdAe+r%dFlo.fjagoew=utoS魂些bLmHd$xpaf?査mmw9jf詐鎖裟坐ufmS債.bx最"),
    (2389, "哉jldDf,k8hkd;mkiegtgT采犀砕Hd.斎細sk裁r_vI剤n;材罪財冴pU阪堺榊肴咲xc埼碕鷺作hufx搾eyc+bx窄bie[錯桜鮭笹匙冊bD察u&eGa'g&殺薩雑皐鯖捌錆yT皿晒三gn"),
    (2461, "参y^mFk)bhi+燦esd@s3hrwrned?mlvO斬c>nW仕6aUa4hBeM1f(c7fGbw5a%d8c<eD`pe;a5hqf_孜斯E`reDkDPb+uEqsagifXIjNaOc0vZ"),
    (2519, "詞B4`maQehL雌fg歯事bHa@eR字b:omeHipnVk)治pJg^cVhtaht9`neFh1辞汐鹿式識鴫竺軸宍雫七q]l-cye'br悉湿avsw質実蔀篠偲柴芝屡蕊縞ko写射us赦斜煮w/kX"),
    (2589, "者謝k,e3蛇邪借hb尺杓灼eH酌akdJ若寂jFeW主pbvit*n]m(unc6reuL趣k.xK儒hLb*vLv@sp綬需囚収b1u>b1e<修愁f4洲秀BjNcJdlfR`ygPk5ckfUhkbR"),
    (2652, "週cYXoy醜什b&f-f3従gZq5m<eYow縦重bM叔odh-淑祝nH粛塾熟出術vT俊峻春瞬ifuH駿准循rYjZfQgIb:bevQr-巡遵cQs>処a&所lxa7uP庶緒e/書薯a7nx助copa"),
    (2719, "序c@恕鋤jW傷aWeMa2`nb<c;aM`2c%j(aEamd`a@@9@gI=aEb'i><aFbH`2go<Xa8cGccddMgfbcapa>hk`1a0m/cydCb;aSazc/`xe%b)j4"),
    (2777, "菖bLbUiCb-ckTOVf%aln=bYcWb1gcc;上5Ma(iobpp%aUb/g5iEgll`gB,q]p9hDng蒸syr]dO嘱eR飾拭r7ghrn織fZf2v+食蝕xc尻伸b@_soqo8"),
    (2837, "寝CkYdrepg`b2h*bD浸ahuQaudMfvawj$n'bci*l'b'm@c/b.e:oI人>iqs1afiN甚尽腎ykq*s]cI笥諏須酢図厨逗吹ixsbpJy;m%t>oIj,y?w1cQeK"),
    (2897, "錘jN瑞髄崇aQwffi趨雛据kZe_菅頗雀裾澄摺寸世瀬oP是凄aabCtXpub=exi^a$bBaDg]]sj$h)m<h4eKqRjo声製aqc`*a'oq醒q/>斉税t_隻席h6d%jba^dc石g9"),
    (2963, "籍f(hS責bOalam碩切拙bcb4折設窃d$説雪絶me蝉仙gNf2TxJaNKeVlpXgHj:Xmdak_q染v@f)`v旋穿cmfda_dEeab8UjDn?g?cfgb6fm`+hyrB前if漸f5"),
    (3027, "全禅nGj5糎噌f<m&tij+6g<狙h=6jWa7axh?ax[yrlT阻遡鼠僧dud>M倉phisaP爽宋bp匝惣GgH`n_[akcQc[cO巣槍`wo7hW争痩cNjrg+c/_lhLhoFcSa?"),
    (3091, "藻hQmzgpa[iY霜i%像w'zN臓j9w2iG促bHebck息hal=t4足gK俗属賊族続卒袖其揃存Jb6wbis遜他多G汰詑唾h^dwuZdJp5舵楕陀j[aS体ybkw耐岱ded=b2cjc(nB"),
    (3158, "泰f%胎bHd<q&lTiw`ursxX鯛代o,oV第醍t&pt滝d1卓f(rXt:a5a$沢j$lZ託鐸濁諾茸凧蛸只6但達^S奪脱巽竪辿棚谷狸鱈樽誰丹o>h5dG担btg#p/graig1uOi1bRfH"),
    (3226, "耽axqtkIyu団ess6s.c(kict男談値知地wJd1r,qU痴lMosgeoC遅馳築畜pdaG蓄逐秩b@yS嫡着中仲宙lnhdjVeDnn虫fCeStze4tD樗r&i3苧dWx_丁itatk?s)"),
    (3290, "帖Ta=b*Xa%a8fuc^jhajxXhkhof7聴脹a.qmixTh0a]mvhdgjnZ勅捗直朕p:uT賃tRhL津墜椎bU追jt痛通塚栂掴r^佃漬柘辻蔦綴鍔椿rH坪dtfl紬爪吊釣鶴亭b8cMPe]"),
    (3360, "貞呈k[jMgbagOa9`odTf`atb-nVjh碇cFalkTm6vrc#j5e^b<adbB鼎泥摘ayb*滴vGmf適j?溺哲徹nb轍b7g6典tZbUi[fy添纏甜貼f]顛点伝殿kqpF電兎hIlL"),
    (3424, "塗d<h;iaqteTt,xa菟zeiVc(g/砥L努度土g4s]倒d/aAX`zi?is;c>fudHb,i`ehe'isbiahZ盗淘b.^#h[d@当痘jveaB5dkb2到董cEajlQc5d)eX"),
    (3485, "逃Cl1g<eFf:闘働f?cvkul3p`i&y/瞳iar&i?道fi峠鴇匿得S涜nTnag;篤毒u)読栃g=凸突椴届鳶苫寅酉瀞噸qfm'mnu5豚kfw1呑曇鈍奈那内乍jt薙p<灘捺鍋楢馴縄畷南楠軟wc汝"),
    (3560, "二尼h[迩匂賑肉q_廿tM乳hyx$hD韮任妊rZ認濡禰_Q寧葱猫熱年dhj]c^燃粘乃廼之埜嚢悩濃納koa%b#農覗蚤巴mefZ覇杷p2aKt_l%婆罵ig馬俳廃lAbLeTfO盃牌背%輩f[倍wKgx梅"),
    (3635, "楳wPe(買売賠陪這蝿秤矧萩伯iec4拍nynr白o6c@phj%迫曝xJhm縛pW駁麦函箱硲iunF筈櫨幡肌畑F八鉢溌wM醗髪伐罰抜筏閥uS噺en蛤隼伴hwcearE帆r=dLf%n6GqiaVd%dNzD"),
    (3709, "般k<t'範釆煩頒bt挽i[番daf#蕃e:匪`nblp$o#c4cue&`w`yhlr[c7z=c;erd.kre;cmwefEf9kCtFdd樋簸備尾jGw8lxxdh[y4鼻柊稗匹疋髭彦膝g3肘弼ax畢"),
    (3773, "筆逼桧姫bG紐百謬俵彪標fUhRqOmU表f$f[廟ng病l4苗錨_i蒜g0鰭品彬r7w/h@貧`s頻敏瓶不bbz_d2czdM冨布b0dag?i0`wb^tgn?zGrAa9c>yrd+a5b%yW`o侮撫"),
    (3839, "武舞fzcH部封楓風葺bt伏j7復幅yw福wIvEan淵弗im沸仏物鮒分flfpfvzHba焚奮粉aDa,雰文聞丙dCf7t2r:Gb.yi並蔽閉bi米頁僻w%癖g0別瞥蔑箆偏yi片篇fX辺Qah便i9uo"),
    (3912, "弁鞭保舗鋪圃捕ws甫補rO穂募q#yqbLmso>簿va倣_ti<d(kjcWg3d:6a)dTlBbMefajd9q9Cl?uHqhh:edd@bwfMfGcWfWm+fcrBkuah乏aAf#eXnkg="),
    (3972, "帽e*8gEmDaVbLcA冒紡j`c=謀ds`zq.k3吠頬北僕gfok撲ga牧nvhg釦勃没]4堀rc奔本翻凡盆摩磨魔j>埋f%昧dZl[哩槙幕膜枕鮪柾鱒桝亦d$kd抹mApG迄侭繭麿万慢満bB蔓味未魅巳"),
    (4048, "箕岬]i蜜湊蓑稔t[妙粍民眠務r`無d%pC霧rQ椋婿_8冥gGa_明盟迷h(鳴姪牝滅免棉綿`t面ug摸pp茂妄ej毛uOkVt'gDmQ儲木黙目杢勿餅尤r.籾貰問悶紋門匁也j.uu爺耶野弥矢厄役約yWmV"),
    (4127, "躍yx柳薮鑓愉6油癒諭lr唯佑ehe,cCw9h_fZbyg3ibbhsL]tpq8f1lF裕eRpya6aSq>融夕予bh与誉n-z(傭幼妖fZi.oAWb^fRgMb%ibe:hejkpNnRaelpao"),
    (4190, "要e/hpg:r/gl慾cRyPd8c0翌`w淀羅x<d%来莱頼雷洛絡tC酪乱o#嵐欄n^藍aOjQ利eux]李dA理aldF裏IzBo5_5律率uS葎掠略劉流dBp4d7iAlN隆竜龍侶慮m&虜了`ofc両"),
    (4260, "凌寮料hooZp*iRdRgNhRpOxjpqd:mue2力緑倫jD林rKl,gB臨輪v0q#g'瑠塁涙累類令aAaDfcc9嶺gA玲pQ苓鈴mRa.KvDbb暦nE列b#烈裂廉did,漣f]簾eEgZmN連"),
    (4326, "錬呂魯櫓q%賂cl露労vDmXa)wrgDOkUe4j*b1zHl;alt4郎六麓禄tn録論倭m.話歪賄脇惑t6鷲亙6鰐詫藁_F椀pE碗ym"),
    (4418, "弌丐<L><=::K9`q:豫亊舒弍于G889E::O6.93L>F)OIa@_u`r91'`vI>@`*%>X`%NGdi俔B&A:-@-K8a$E#M2`']fbq`r?:_q(Y,a,;會偕2/I3MC"),
    (4507, "傀Q`2`v5N8`0FK?>?-BB3K/8K66=>P4<6;8I1?E竸兩8;I9ou册4=9998E93>88?585<??;I<處凩;:<@=>@1P:;<=M,>8I-MA,AC5G>5`&N@辨"),
    (4606, "辧劬8F0CCA><:飭勠J9:8D9甸匍:6=<@C99<?=6丗oQ;凖doB<pq卻3BKA=6@9=D簒雙叟曼燮叮1<D>a+:#8F)?*+`xa0`-P_pI=0Y`0<-EC-a0_zM$>O;"),
    (4699, "咨:N`)Q5SD8`p<`0(6D`/aF>Z`0`)`u`0H8`(2`qa+`.^&brL`#:Q=G_m>`m`%X`y`2Q`,O?'a/`*V`/6U`%aD9營嘴93=`z0_ja,5S1AM+"),
    (4773, "嚏M@?5E1<94?=:9;NB>6<<6:9=<5嗇d<AH8M$<FQaF_g_xUAADJ(==J:E58a&_kD`oE;aD_Na0`0`l毀塒`2a+Ca#`-CF[`$4-NE5=96D.?2"),
    (4860, "壯B6988<?=B梦夥>8<==竒奕25C5A5><4F@S佞a<妣FKY+_Pa;8a:1)B$H`m`s`$#8`s?`wY9D.2`m+F:$[8H6BS_=aIC?<92H;<8A;>:9:斈孺=:"),
    (4952, "宦IB;9B3K933>=<=4I98<=D9=G8?<?<46]qc:9乢屶:J<:妛i?G2=2E0@IGK4*b6^UXA9a4_b3-:E/66a#=34X>:H45W2F9F_r`n<D;=6;<G"),
    (5046, "已:MF6/AR8D64E@4B:9`*`u8;麼广XX8=?6>D148>6>8:<94;;=<=aC6_N=<J;B@>;9`(Y<89?C=;C64B5@-N26??<FQ`l`0K0#bm^CYa."),
    (5139, "怙.P`,Z`11M2`0`rW`.`pD`/`23>M`'X`%`q6%`oCaI_;N`1N282L`+aE_v`o*`(^3bd@&Zad_g('8@+=@U_y-S8a(.`16Z,4'?@<9`v;"),
    (5215, "慘88H@2-C%5-Y[4(`l`/='>Q:U56`u_p2:+H罹懍P4J;1B5699?8;6?>::@;998EDG</<?K=>,K8:a-_NHa21`1K`w_ffE拈K'5/<_s`ua2"),
    (5304, "拮:a%_z=`.=aJ%Fbf^*a6/)`r_j`t#1MM_U5aD`r_v=T`-@[_maAU_qDJGc&]IH`.aG?>_wbs^b5I;`&a#U/*9+T`1`v-舉擠8抬fnCa,_i5"),
    (5376, "擲?=4R;`0V6?@8969畋效E6/B=6L=A8變斛;CCC:2:?=@5>8Gdh昊0/d_昵85`/`z,</T6>:8.:EJ<=22K<[/G,5?+U;=^Vb>:><9O>??8霸朮H.B"),
    (5473, "朸6FO90A8`l`.a(_r%Y6R2`+`ya'_da'_fa%_n`s16<C_jL/Xh<栞`o`*ND`,SaT^o`uAK?W'U`.@5`/fb梹_Za0`2QaD^u(ar_ha-_oa9;"),
    (5543, "棡`r_`>J%aP`#)_rCa1_s`.Fa(9'@5_DbJ5`,S*`0`q'_ja*_hS_v`x46[`0a73Y&9I`2G寨槊J`%?`+av^ZF30V`qAQP`+cJ]>0,U_K樞_n"),
    (5615, "樔_vV?bF^Y'`x_gaU_ca1_nR.D`)'`1a]4J`+U8+蘗檻?6-20`y*E_j`wGHA蘖櫺O;鬱欟P6盜欹飮歇3=>@2>;9N8=8;6AB4@==8;:69;<A<?CD6?3"),
    (5703, "麾氈B8>@6a*.D?OBD`.Q`*`1BV5a#`t`)`1Q%O_p:D3XK`1Ha$衍洶,I2`(S5`&1aF`w_p-V`'a$>g.涅acS,_JIV_qE`m)%S`1*a$`&B(L;"),
    (5780, "渭a0__`2aH$`&`,a7__a:_v_q[.K_ubr]mRa9`o%`x%S`1)L%Y8_YMT`$b9_ocz滬C=a0_Ra._]a2_9aa_t`+b&+5@6&#b/^qL1`#a%:`x"),
    (5846, "潦a<'5:LD`+a$-N`/;P4$`u9&N'E&T6^Qb@2>HE+VIa%0Ta1_ZC22`x#I3`w+V4a;'`z`%3`1AMZa[_(HJ;`r`)<K.B1IC2E>4=E:BD<6"),
    (5930, "爰9@8:8=<DSA;6=B;C<I0H:5A;G58O5倏猗*I1>N213PG8默獗J5??4=6a=`2R$<`l@'b[^ZaY_U_ra)?R`1W1`/RD>*>C?DJ@Z<<]lc.:;9<"),
    (6021, "瓲58>6D69>96?5B?=G?@46I`2KF2:;9B5G8$M60I=:?5V(G)?2;,S4?>A2W84<&A/8O93M?0889G3BC85M3@8=884<;9;9;;:<::?4=8M"),
    (6124, "皴;88?B@3C:;9:蘯盻D64`l21>8,S8FJE:'AQ62L4=F5I=:=485C=A:9>BEG=cS]IcI]ja8`-I-U)NI,<Y,<@`15@<Y2*Z.JB6?J6LW.?22"),
    (6220, "祓`n<BJA齋禪;<=8FCI<,9`l<B8>6^XbHA:0CK)O8>龝穰@;BF5:5JV`/=F62邃竇::9=5=8:;8;>:ID23`t`,8<N*EQ`q_)a8_]a00`w'F*@82"),
    (6311, "筮`v2>%F5(>4_ma+`y-B:`,INC`o:_q6aj_?>C`';W-`0`t;:,O+IF.H2(G?><)F>@EDK@,@->B664B;:<4M1A=鬻糯:99;C3Q0,a*=`*;D"),
    (6401, "紵H`t`*/[-=`(K`w-_qa#%UV+,II-%b)綢D`t`#`.H`o<>1T.&[<P5(V%`19N[W_t1;A+2?`t-0?28V(6J6?^Ib?辮繿@8:=5:89/D8b39B>"),
    (6488, "罍898;6;>8?85HA;4<6<?A64@C:>,?9譱翅8;B6D<:A=飜耆5>>=8:<>N3F3C=9<:=B65=:;9<96M/>J冐肬`vA+;`.M3`z`-9`qE1CS隋腆/L5_J"),
    (6586, "腱4.8EF<9-9U,F6_[a#M><@1<:9/F;;?6'I<8>J8::8:9:::=J9D2DP6<4<<5=98_ba2=8=F<P+S(a$93*Y6>b0^g/5`,`o_u`t_oaK6"),
    (6676, "茖S6F0N,`13#8莅LG,:+_,aZ0:)a(_]9`r`0Va;V_w`*`v=_t`z_Ua%G_xIRL5_<ajbe]Daa萪Ic]]y*+a1_`K`.`$`-a2A_[b,_7aF=`'"),
    (6745, "蓙+%V-(<G_jao`%,Z8K*-6`/a3Z,'0bX^@A`r[`+@0U_d`n>a>_<L_z>Ia((L`1N<??.TH@/*3CS/MFE乕虔B?AYG=8`(8`q0L9`1PdA蚫`p"),
    (6828, "蛞B:*3KZ+9/:/M/;#H`qB/;`1;(a56P_s9`m`*H=`21G>b2_<4`*`tS):G雖螫P&K6,a#:%`v5(/8N_ca.<6D6G<:%K@5G><;@M4W_v?a'衲"),
    (6915, "袂L2S`2@`2NCF)I8G;8;S@1/+AI?5@`w_z><8M:.29K_pa25?5@4<<:><<9@<@?4=::?:98Q98AD;BJ13F9?HBQ.+9a#(6-Z49[0'K8+@"),
    (7012, "諄@,OH?+4DZ_k9L`.4`x2J_fa$1>@J鞫謦<J`1PB:62D<6H+D:<@:C9;8::8b7>5@;99<DAC9?>3<:8=`/S戝貭4J,82?I0Z6.Z48@8<4?5:齎"),
    (7108, "贓_Ya69a@=;9EO`p33LB3-F'V8+;PC8-U8)FZ*2;M49:;/HB3_ia()X3A<=56>6@5:<H.B;M`2D>::G?P6'JC2G4>1@:3(QD?5C43E44?"),
    (7205, "轗<=88a':;A9?ZB4?<b/^dH+8N;C#H/,SF6;_^aF!#_[a*,O9=A>>rI遲G2;6A6=P>9;`t9扈郛`nG>P5QC9B9;A6P50W@;2B6==8?9<=@91"),
    (7300, "釼08`o`(LO`03a<0%;R`+a<_IC<a;14?_^ad`15`y`m`2a9`1`2@/@N2=X;S)`/aI38`.`lT8H4*`2Q*/Sa%16';@`m,A#P>H)N<93C鈩"),
    (7379, "鑰<9=`$Y9:5cB<:A998>?6=F65<C濶闃A6@69=<;4a.>=8JA:3`s`,969>C1XB49J4A85;998L45;襍雜`x_g[B99B2:5>:B==@;8=991>J;;"),
    (7476, "靦9勒靫=?C.<0C<;8CC54G8F:9:HHuq韲竟韶6Q4`s#4M=@@3W;88:6a&<9<E6:Z9O=@9;@38=3C9F8;>3B2=81@a18D?8EZ3920S8:8@4@E-"),
    (7575, "駢a&ICE45:2N/E3?::6<96a2:C;F998A8:8:@3:=4=;BI9<:899!#;8:I6C58:>SV'E<8?8?CCA&D@98H69'DaH_W66`l6,A019A/1`q$"),
    (7674, "鰥64FN`2K/S=>F9a^<;P6`*O:[3ax^k3`l_p4`v56?9L8=$6@PN5[_cBWA<@I4149C@*N1`l%>9ET8:aF;;;>:8=:3C?;F):靡uz988;?9"),
    (7766, "黝:<:><989988A8皷鼕CBIC?9F388<8<5D2;V>;堯槇遙瑤凜熙")]

/-- The characters of JIS X 0212. -/
def jis0212 : List (Nat × String) :=
  [(108, "˘&¸˙;¯˛6~΄8"), (127, "¡<P"), (168, "º'6<™¤№"), (534, "Ά988W"), (540, "Ό"), (542, "ΎT"), (545, "Ώ"),
    (550, "ά!#Rΐό-B5ΰU"), (597, "Ђ!*98"), (645, "ђ!*98"), (752, "ÆĐ"), (755, "Ħ"), (757, "Ĳ"), (759, "Ł5"),
    (762, "ŊØŒ"), (766, "ŦÞ"), (784, "æđðħA9<A5@9øœßŧþ"), (846, "Á6;5ĂǍĀ;Å5Ć9;ÇĊ;É6:6Ě33="),
    (871, "Ĝ9;5;Í6:6Ǐİ1;1C9:;5?;5Ñ96;5ǑŐ3ÕŔ;5;9;5=5Ú6:6ŬǓŰ1?31Ǘ;53ŴÝŸ5:;5"), (940, "á6;5Xǎā;å5[9;ç[;é6:6ě33=ǵĝ9"),
    (968, "ġ;í6:6ǐ"), (976, "ī;1C9:;5?;5ñ96;5ǒő3õŕ;5;9;5=5ú6:6ŭǔű1?31ǘ;53ŵý9ŷ:;5"),
    (1410, "丂98>=D;8;::88<B8::A@9><8B8;=E@8=IAADA8<88=>999?!#98<:8=:889L:`v_r9999:99=898=999>;>99:=!#:8:898;8999988:"),
    (1514, "侙8;8J<99!#98;8989889:A;9E9A8988:::999:;8:!#;<>9989B88:8;99:88;9=898:8:::8_ia5989;;889889<89!$?<8@8:::8:<"),
    (1620, "僎9:8;;89:9998=9<;;<:88:!#`+U>99!#<;8;899988:8@?<;998><9O<8>:A<;9AB9998:=>9889:=;:@;88:A8:D8989A=@8:>@;C9"),
    (1725, "剘99:88<?@88>9:<9>9!#99?!#?8=88989:;99;:9:9<8<;:889;8:98@:>88<9<:898=988988:9:>88;A6E9=99>8<><<;8=<8<;;:="),
    (1831, "厫;:98989::<A:89<:89=8EDH>>=89<9:8E8:=9F;9989998=B999:8;;;8=:9<898:8:=988;>;:8IA9:>=9!#;:8:88>L8>:8<88;=9"),
    (1936, "啊::8>98:98:9P98;9=89!#:C8@<D99::989:88;8::;>D@=:9:!%>J;:999988988989:999<A9!#::;998:F8::8@;8:88>!#988;9;"),
    (2046, "嚾>;88;838C:899:!$@19@8A8<:9<;<89:9!#;8998;8@88=8=8<G:98:9!$98899!#9:9@?:989!#9+I88:C<A8;:=?8=989;:<89<88"),
    (2157, "堃8;8_w`r8E:88=8=<>=A:898<A9::8G;:88=!#9898;9>:88;:?8I/==<89999;:;8>AI8<8=88虁夝;98;>8:98@;:C8=998899?99::8"),
    (2260, "她98F89;:9?<:=!#:;:9<98;9:<B88;8:>8989:@;?88;8B<8:89::K898;;<@<99=A:8:D<::::9889<<<889:98;<99>B9;<<;>8>:8"),
    (2365, "嬈FT`,99;;?B@A8=;?A=8D!#9:9;;98989I8:8998<:9;8C9>!$=F9:@FB>8;::98999:8Z89=8;88;:;8<!#A89<:B9898:;?98<F9>B"),
    (2472, "峗N:89D<><P/898A:<;9:8:9D3?(L!#9=::@8;899<9?!#;9;8>;<;;8A;;<5A8>;<F8>>=<98:>8E1A:@D<0?<9:89A9!$9GB:K98:99"),
    (2580, "庱9A88>=6::898>9>=N;88=B:8;!#;:899;9<998;89=:;;:<:8:?:98:9:8B;9>=8<<;0?:88>C:889<!$A:8=889!#:8:;9B::=8:89"),
    (2688, "怟<@=9B>88:<:98=;=AD8:;99;:99:<8;98:?8=;:;9;!#:8<8;998;:D::;8<<:9;!$989:9;?8<8;889?;8:L9C==:8:8898>9<8;8;"),
    (2795, "憝98<:9:B8:;88C8=>!#98<93>89I98:C9>;98;99E;<889=;8899;9?@9;>:G!#M9B:8:;8<A>8;G?9?8=8=89:::9H8:?8::<!#9;8:"),
    (2902, "捒88;:A8=8;:8:;89:9::=;8;8;=9>88E;;:=:988>;<<9=89:8G8=99;=9998;8<8<?9C;9!#=!#9889A=8>9?9?88>899999:9;>A88"),
    (3008, "擄<!#998;9D8;8::<9;;9:;88<;89:9:8:;:<:@98=;9>99B8>;F:;;<?::<:::?;88B:=8<9;99>H998;<88;;8;;8:8>8:!#9:!#998"),
    (3115, "昳=5@<8;9<4@8898;8b1^f88I,9A/889<3F88:9>!#:8;@;8:=;898<;98<>;@:89CB9><=:;9HB>98;?8?@=9=9<=:A899:989L88:=8"),
    (3218, "枽a+_f989:8@<9:<<A9;8aJ_a<;9@6<89889?;<8<9@98:G:!$:;!#=999E999<99;8;;@A:;:889:::8?:9!#:8;8<88@:8=89:8Q99:"),
    (3322, "椻>:;<@;?!#98:;88?8;8D<;9@;89:99?899@:@<8B:@8999@989C9;<::;;?99:;:8=8:8;988:8<@::>9B:9:899=A988==;88:@88>"),
    (3427, "櫉6;;;88=8>:<;88A8<8:89=88=;:=;:8:=8<;>;:<;9<:>;:9<?8;:I;;898<8:889?8;8<8<:A;>9:8>:=9=:98;;899>=>88;9<98;"),
    (3531, "氻;B899:9<98F99<9989A889B898;:H99E;>9!#99;9;>9989;9G::;899>C88^6b^89?::O>89;9?8C=<A89988I9?:9;9<;9;8><998"),
    (3634, "淢:;=8;9=;;Q;<B;:98?8:89;9!#:<88;8<B?9G==>>=8:9?;889;89:88S98B99>;998@998B:8<8::<8(Y988;98:8:8=;H8<;8:88:"),
    (3739, "澒889;<8<!#=88<8=@989G;A8><;:8:<88=A@:C<:9:>8;!#@8?8'M8>9>8?:;8E!$:@><8::J>9!#9;?M@!$;8:F9B9988>@;88:8<9<"),
    (3850, "煚999?H><9<=?8<9D898><88:>8>::89S=9>88A;::9<>;<;8?889@88:98;999:<::89=8:8:<<;8<?D<8::A:=9:@89>=E8=8:;989;"),
    (3954, "猍<8<8<;9:8;<8:<89=A:9;9<!#=8998989=9:;8998?9:998;9889:8;89?99:89=8:98::8::;;9:89B899889988:::>@8@99!)?>:"),
    (4066, "瑄98;9;8<=<;88:98:8E8;889=!#=889:889:9!#:898:;9;@8:;:<98:8<;98;<=88:>C;8@8::98<>:;!#:;8=99<>89E9?!%:;B989"),
    (4176, "疙:=9G=<88:9=98?<:88::<989?>988:899::898:9!#<98:;<89:889E-8988;9A;=<8?889:D;>8?=88989!&9:G;;;989=<>=9;;8<"),
    (4285, "盹:;=;;;989989==<88<88:;8;:8;:88:;8<98899::9;988=::;?8>88;<:<:;89;@<=?8:;<88;9;9;8:;:A8:;8:C;88A89<9C8:8;"),
    (4389, "硎;A99898;9;C;C<<;@388<;;8:!#?99?88:9;898E.;88<;?8D-8:8;>=;A9988<99;;:8=99<88;8;9:;:8B99>>989D8<9!#9:8<>8"),
    (4495, "禫;9:;:>9:89<<9;:899:<89;>;=8;989<;=::=;998;8:88A898;@8::898<9::?:=99:8;8<8:A9:@>9;98A::9:AD898<:>98@DB;;"),
    (4599, "笩889!$:@988=>>B;9:8:9:8;D<<98<<:9<>:89:8;!#<::9A98988D9?98:8899:!#9:9898A9<<89;<989:8C;B388=!%:9;9;899>:"),
    (4710, "籽@8?<A9=A=8:88:<:88;9;88998:@:9AE;88=988:>8<:;:;B8898=8<;9;9898?9:=?98;988989:88;<8=8?8:@:89@!$=88@9`n`)"),
    (4814, "緥8;89;;8:8E?8;9<8:>8;89;:@<89>99=>98:=:8;<=:<8::;;:9:8b56988;8:?:8?88;9!#>;C!#B9988<8<<8;;:>?:8:<=8C;;9:"),
    (4919, "翬98:?:88?89:889989>!#;9=99;8998999;S;9>;;C>=E9?8;D8F<9:9898?D8998::8;<?B88;99;:<;<<9@9:9=<@8=88;9?AF+88<"),
    (5024, "膎?9::;C;9>G/9<;8=9;98::>8;88:898;98:C;8<8:;8=A9=@!#<:89<=;:;=>>998898:98;::9998<898:!#;999::998>A<<=99;9"),
    (5130, "苭9>8=898=898a8_f98898A889:;:98<88:=8:;88P?<98999><98:8988@89:I88>9=88:@^mb,9C98:<<;<9;;_3aqAC989:998;988"),
    (5228, "葜;;89:=:899;8;;D89@?988<9:=:899<8;:;@B:<!#<a*_g89<8;<99C9;!#9:8;;89@>@!$:::!&9>;A88999;8:98:;<<989:9D988"),
    (5338, "薼!#:<:8:`&`r9<8=9<=:=:8;8?8988=89::=9D9998:9;C8:!#;:!$<::=88:J;<999<<88<;988988=8899C8:9:9;:99_@aa98>89;"),
    (5442, "蜎88:8<<899<=898>89889:9?B<;:8A98@?!&98;:9988<9:;<88:;@89>88;>8:89::88=89;9<9<99::88<@088;98898@<899:<9<9"),
    (5550, "衅:!#::;8999:8;<??9<O988:8?9G:89A!$:88?:@?88;9A<>88=89889;=88?88:;8;99:8:=:<:88<88?:9:9<!#C;:;8=8:8<B;!#<"),
    (5659, "觔!$D;99;9::;9<89?9898@9999<8:=9=89:999;8<:88;8;;9E88988:88::<;89;89=?9<8;:8;:<:988>9889=9D;;88=:=8<=B98"),
    (5764, "謊Z:><=!$9A88<+H<A@98:9::8=99<8>98b08;8>999;998:8:93A8998;=98<:?8;<98=98?L8B8:9;>6;;;>;:89:98=899=@<;a9;:"),
    (5868, "赮H:9;<:8;@88=<8:::999<<!#9;::899B89<;_ka$89@;:88<=:9A!#:8A9:!#;:8A988<>!#:8>:8988?88>8=>9:<898;<9;8<9<8<"),
    (5974, "軁98:?9:?C=98=98*J9<8>8=88=989998;88=!#:=89;?9!$:<8>a':8:88F89=98<;89:989B:8;=:;8<:;9;;C:D8=298=8:?;8?F9<"),
    (6080, "遦8<;;<C::899<9889<88:B9889>F)<8898D988:89=$[,;8;A88;889<:;9889999<48;9<89:989898=;8>;;988=::=><88=998;;:"),
    (6184, "醓88:=:<9;889!#:<889:89E8:98;=8;89!%=999:8:!#989;98:9;8=!#9=88:9898899998:8::889>8:8:8;988<88<!$9889@88:8"),
    (6296, "銒<9=8;898:;:;99!#9!$9!#:!#9:9988:89889998;99@9;89=<;:8>!#9:8998@898G88>88:989;=8998:988989;:9!#=9899::::"),
    (6407, "鎞:9899:@88;&O:!#9!$==:98:;8I58989;89;8;88=88?F89!#>;5=9:99@;::99<:98898I6c48<=;;88F889<:98?9;:9>989<!#=8"),
    (6515, "闝!#;9a&8;988=<9;!#98;H9988@D=>8989!#<?<;:9<88:<8;>G?嶲雘9:88A=9@?89;H89;88<@9E9>;8=9898?;:;<:88:998@C8898;"),
    (6621, "鞟:A9:8:89889989:899898898::88;892=:B9::89D:F+8=9=99::<:88989'P=::>88:898?898;9a.989;:898;:::;L9988:@:C<8"),
    (6724, "餑;88:88::;8;=!$;!#;8<88<8=;898988a*99>A88:;8:9;=A8<899@:88;;8;;8;88>8;8<?9988:=8<989F1:=889::9>a<998:988"),
    (6829, "骹9:899:9=99:88;8;;899:=89;8:9!&:89!#99;:98;=<9=88998:B:8@88;::99899!$<9988=8;!#988998;=:8?89:;88<8:8989="),
    (6941, "鯈=9>8<9=9:8;;;!#:989@;9<98899;8:!$>;88=;988;8;88:899:988;=8)F4=99:9;aZC<9I.F=8;88H8988=9@/<8;:@8B;6:;88<"),
    (7047, "鵶8;89<89;:8;89!#@@99:;;::;;98A!#:;88<999:9:8AC/<>988:8::8aL88;9!#9>8>9::=;;988:88H9:AA<:<88988::>:8==!#9"),
    (7154, "鼖8988;:;;8;989:9898999!$C9!#9:8A8;!$99<:I!#998>:889")]

/-- What the first plane of JIS X 0213 adds to JIS X 0208. -/
def jis0213First : List (Nat × String) :=
  [(108, "＇2Ba@〳88=8bZ_?"), (127, "⊄8<8^u3c?8"), (142, "⊕88_-8un8sQ848"), (168, "≢`(9:`u8]l"), (183, "♮484"),
    (188, "▷6B6↗85:`r[589uZ8"), (213, "⦿◉〽﹆6◦•"), (246, "∓]q_y㏋ℓK"), (278, "゠–⧺8"), (365, "ゔ88"), (494, "♤39;2;93"),
    (526, "ς⓵!)cW8〠☎)!#aT^@ㇰ!)"), (558, "ㇺ!%"), (597, "⎾!."), (645, "ヷ!#⋚8⅓88q-⌘cJ_J"), (690, "㉑!.aA!."),
    (728, "◐!#‼B88Ǎ89Ḿ8Ǹ8Ǒ899999"),
    (752, "€\u00a08:9:88988:8;!?9!>9!(ĪŪĒŌāīūēōĄ˘Ł3T=5=L;5ą˛ł3Tˇš5=L˝ž5ŔĂĹĆ=C9+Ń;@?M9)*ăĺć=C9+9ń;@?M9)˙ĈK?GŜGĉK?GŝGɱ"),
    (915, "gj*<Fɬ9BFɖTA<Eɻ))J`r(ɡŋɰHħʕ6ɦ`yǂɓ;`tɠƓœ6ɨXɘTə:9)VRɤʌɔ48ʍɥʢ6ɕʑɺ$*"), (976, "ǽὰ8"),
    (987, "ὲ8\u0361ˈ;;8a$‿\u030b-:3F4-˥!$"), (1010, "iT>D`*:8`/a$#=˞a5CC/`0818HG8_gN❶!)⓫!)ⅰ!+j,!9㋐!3N&3?6"),
    (1126, "⁑(lE!3Ⅰ!*㍉_jE`r_jF`#`zR=_UP4?V(aP88'8a$`$Ⅻ"), (1190, "㍻〝9№㏍℡㊤!$_(8>d,66"), (1210, "∮"), (1215, "∟b7"),
    (1220, "❖☞俱𠀋㐂丨>8aLaCS9;?aD`/8D@B9ICA:\ufa30俉NX8CAF>I2=aBa'`m`%M\ufa31儆4?JNL\ufa32兕9㒵冝`m>K;CJ㓛刓9a#EA`ya$\ufa33勌;="),
    (1292, "勛\ufa34勰B<>L\ufa35卡9QMALaOL`ma>_n@B@EB?Ta(FTAREZ<?\ufa36喭X\ufa37嘈=`tE`t'\ufa38噯98`n<B:>M8a/𡈽圡E;8a+><W﨏𡌛垸"),
    (1361, "埇8>L@?8@A\ufa10塡:\ufa39塼DL\ufa3a墩𡑮壒3===@Z虁奝GU>IVFBa%Ga3=A>=Q@T𡢽嬙C剝"),
    (4375, "𠮟孁L`nMa4K`mC<?㞍屢\ufa3b8𡚴屺LG;>GH<9Y𡸴㟢崍Q﨑嵆8C.ZKV;:HJ吞"),
    (7808, "噓vF`y;a/=aO\uf928廋`u>9<M=H9>:<F;C:MCJB?=9IL:?[>;R9I\ufa3d悝8`t@8?R[F<>\ufa3e憍\ufa3f憼4\ufa40戢S<J;LMa.I`mEE"),
    (7879, "挹AYNaX??R;EaF_wFDaP'8<==`n;`n>\ufa41敧a%\ufa42昀@C@S`/9><89b_^D;𣇄晙8>;E;8L\ufa43暠I@B9㬢曛DIP\uf929朳`z`(8`z=I<"),
    (7950, "枛Wa-_fN`l<a@_jF<`qN:\ufa44梣9DM?O<:8BEa.𣗄椵DLC8;O﨔榥?Y㮶D槢>8B8P=𣜿樻:>B=<G?𣝣檉B@8>a.:㰏\uf91d欛:E@HGA<9GB`n;"),
    (8030, "\uf970每>8`o=BZ`m:a=_i9F8I;aN_jECB:𣳾洄AW:?=PD\ufa45涂<9BM9J<I;89V\ufa46渴GO9a<=G=>a1A\ufa47漪<;U?<:8SA;8>C>F="),
    (8106, "濇:`v.<G8YYJ8'MHGV>CT;C`rS*9E9M8A\ufa48煒A;?\ufa15熅9B`v0Aa)9La/8㸿犍EZ9a*𤟱猧8\ufa16獐MMPA89;<U=>:A=U:G8\ufa4a琦"),
    (8184, "琨988988K98;CB@9P89F;:;$M98CA@8H`l9MOa/AP㽲痎MS9=D8:<F?E?P8?99GQ98?;CF>9=IBBEFR9G>8E::O=KMa%a<𥒎硃B89N=\ufa4b"),
    (8279, "碰𥔎碭a&EE.`lI::\ufa4c8祅8\ufa4e88祜\ufa51_g8祹\ufa528_g禘P>G9𥝱秔AD9M\ufa54稹[G\ufa55窅R𥧄窳?JTILREC>ID9:`s\ufa56篗9"),
    (8342, "簁`w$9J:䉤𥶡籙KCM<CSP;;`q8BA=EG>B@U@?L=SAAD\ufa57縨`'@;\ufa59繇BF`p:bQ\ufa5a羑=`oFD;D9C\ufa5b耔IF9<b%D@J`l`yM>8<"),
    (8417, "膻F<?\ufa5c䑓?艠K𦫿芎J98<<@>8>F`o898aP__BD@;A;`o@C=F9M8>?9G@N<;\ufa5f葈NH:IPH<==9𦹀蔲#<C`qB﨟薭_lI:JER:V`l$<8B𧃴蘘HF"),
    (8504, "虗;\uf936虢䖝虬@ZWa198EaUM8[8?䗪蟖MQ;=;BahIW;𧚄裵`n\ufa60褘88D@9>>aC\ufa61觔HHS:DLG>F;K;`u`pFL9\ufa22a/8譆E<Ga#bCV"),
    (8577, "\ufa64賡J;=\ufa65贒@b+V:=a8:Q`zB𨉷軀䡄軺[F@U𨏍辦F`v;=Q`l\ufa67邈D999>HB=89G=8H<\ufa26鄔88C8;?9:@BJ`oRE<BR[`08?;M@"),
    (8653, "鈸889;:C`pGa)@8>DV<R9;Z88Q8<=`r?NCO8`l0a%NP?=8c[H>::A>E<:䦰闚;ai`s\uf9dc隝>8`tC\ufa68雩=a3?I88BK<YPC>?L4P"),
    (8733, "\ufa69頊KD<\ufa6a顒8:898\uf9d0顥>a=EVa`a5aS8X@8AI;;aSB9B?Z@=O䰗鬭`xR$C:F=<F@QDNJ<:ZUE8:G9Ib=8`l;BHDCEC`q#GR𪆐鷧"),
    (8813, "鸇EaVY=?:<8EEa.`pUa(;:B姸gBfS瘦xL")]

/-- The cells of the first plane of JIS X 0213 that hold two characters. -/
def jis0213Pairs : List (Nat × String) :=
  [(368, "か\u309a"), (369, "き\u309a"), (370, "く\u309a"), (371, "け\u309a"), (372, "こ\u309a"),
    (462, "カ\u309a"), (463, "キ\u309a"), (464, "ク\u309a"), (465, "ケ\u309a"), (466, "コ\u309a"),
    (467, "セ\u309a"), (468, "ツ\u309a"), (469, "ト\u309a"), (557, "ㇷ\u309a"), (975, "æ\u0300"),
    (979, "ɔ\u0300"), (980, "ɔ\u0301"), (981, "ʌ\u0300"), (982, "ʌ\u0301"), (983, "ə\u0300"),
    (984, "ə\u0301"), (985, "ɚ\u0300"), (986, "ɚ\u0301"), (1008, "˩˥"), (1009, "˥˩")]

/-- The characters of the second plane of JIS X 0213. -/
def jis0213Second : List (Nat × String) :=
  [(0, "𠂉丂D:N9:I>8𠂢乑㐆𠂤乚Fa#㐬9亹9𠆢亼><?R&N;BMa=_r>M;𠈓佷89:<:D?a;_kC>=;:㑪俲EG:@9;㑨偂;?<;C:;=`z`,A898=E𠌫傱@8@:`s𠎁僎𠍱僔<??㒒"),
    (188, "儈𠏹儗;𠑊兠𠔉关G?㒼冘BA㓇冼𠗖aA凳8EG;𠝏剕>GBD5𠠇劘𠠺劤9@B8F㔟勑𠢹勷J8PH@;𠥼X卧<E`qG𠫓厷@𠬝㕝8叕<㕣叴8aO_n;㕮呃V;=U:?B=>8@:<;𠵅哬:99D8?`z<㖦啇:㖨"),
    (288, "啠8:𠷡啽<=@㗅嗒𠺕_w喿A:<C㗚嗢𠹤嗩a.𠽟嘇@W>㗴嘽98>N9D㘅嚈;@<:B<<J?I@E8𡈁圕E𡉕圩𡉻坅8=8𡉴坨>;88=𡋤*垬%:8A`v𡋽埌𡌶E埞?A㙊埸:9>Q9>B>𡏄塉:RZ8998;"),
    (390, "墝D>𡑭壃ALH8H8<9>G𡗗㚑夽㚙奆㚖𦰩奛;𡙇奵8=ZFEC<H<8:>𡜆a+㛏娌8AG=`oGLHH:89F99<<R9;<B5>B?FT0V=M>D:9:𡧃"),
    (658, "宖M㝡寀㝢寎?㝬6寱C㝵尃`m>𡱖屟;;88>𡴭O屼𡵸`1岈9㟁𡶡2岠9;8𡶒岭?𡶷峉𡷠aB崆AR):;9B?@㟨嵡@㟴嵰𡼞㟽嶈㠀嶒9:9N99𡽶嶹O=8?𡿺巤<㠯帀㠶帒:㡀帟FGB㡜幖㡡幫88"),
    (1034, "幮𢅻庥<9D=>C>𢌞廽B=E𢎭弞`pSFCHJ9KC㣺忇;>88EC8;@㤗怗B9㤚恌`zBBJ𢛳悰8DAH9J;:R98=<S㥯慁<QS𢡛憒8;8D:<𢢫懕?9M𢦏戕E=T=<8F:N)=`mD`v𢪸拽="),
    (1134, "挍:𢭏8挲:=8<:A𢭆捙𢰝_(捬OL𢰤掔`pa)`$8>;B8=NL>;=`r89MAAAC9`s8@9𢷡擤8Q<㩮攏<9㩳攞KIGNF>:8<`o::>:>B㫖旲>:?;P@RC4㫪𣇃晗;?𣇵_`晪!#E"),
    (1231, "暀G9>㬎暭;;㬚暿㬜曬㫗朁;D𣍲朙𣏓6杌8>@𣏐K(杴9𣏚枒𣏟荣栐_?9H<A>9L>𣑊>1栘>E𣑥栳?:=8;:@9㭷桫:C9=E=㭭梘889E8@>a/𣓤ae﨓棃9>:>:B8>BC;㮇8𣖔椻㮍楆Z:="),
    (1332, "楺<J㮤榖9EA>:9;H<𣘹E樰𣘸9槣B8;㯍槴AJ@:𣜜樲88B>:`x_s;I𣜌橾<?㯰檑E9𣝤檫I@E3C8𣟿`/櫬<88A𣠤欋;88𣠽欗㰦欯REK@<>"),
    (7238, "殛J𣪘殽8@88HC8>:H?;`n8;𣱿氿EEIN<㳃沔89MLE㳒泖;9D:8𣴀洀AQ98^7b_DV:9GG8@:;>𣵀渗𣷺6_y涫:=E^ib+=88FADa/`/;<㴑渲AC898:998:C㴞溓K"),
    (7334, "溴B;>FaK_UE9F9CDH=𣽾潒<:=?`w`,J=`o`(=A㵤澵J8H;B𤂖濼;>:P𤄃瀹89>;;㶚灔H;:9??:<F9[𤇆炟I𤇾烬`%>9@`n8988;㷀焯9V1@B㷔熖`1R<9C8;𤎼燋"),
    (7429, "燓=:`r㸅\ufa49爫@;8丬牂H;C𤘩牮8@>F𤚥犭898G㹠狌㹦9狳>DB=8㺃猹*<9AL㺔獫8𤢖獮89=A;<A;;9>:D99::==M=IQ`.>ZD?Q$:A<BKG;:𤩍璒<9>8;<8E"),
    (7526, "璻6S9=H3𤭖瓺𤭯甠;=㽗𤰖甽89?=99Q=6@:8:𤴔疌㽵疢㽷疰>?8=@;A98><9:?AL&?㾮𤸎瘓?8𤸷瘥:K.𤹪㿉癁𤺋癉C㿗癮`n><6>8>𥁊盉𥁕盨;𥄢眗:J?𥆩䀹𥇥`/睘?A𥈞睲A8𥉌䁘瞚"),
    (7628, "瞟:9<a$8<9;9䂓矰;>𥐮砅8:;C?BRT=𥓙碊AG088SD;9>B8<J88:𥖧礐BL,MFE:䄅祧BY88<=?B>><<8@䅈𥞩B䅏稊>;=:䅣稭BF<A:::8>:B:A?=J@𥧔䆴窹:9䆿"),
    (7731, "竌<M8C𥫤6笇𥫱笽`1:;89䇦D筿_a䇮筕[`29:A𥮲䈇箐8A䈎箯=>@<𥱋P篔9;G=J?:8NV<>=>:?<88𥸮`oF粦𥹢粶8?𥻘糄𥻂糈<𥻨糗𥼣糦<𥽜糵E=䋆紒C𥿠+紽89>𦀌&䋖絙8G=䋝絿𦀗"),
    (7831, "綆9;B𦁠綝A:C8@N9DB?䌂𦃭\ufa58縐>=:><P`u9@?8䌫纑>9䍃缼6:<8B㓁𦉰罒𦊆罡98@G8𦍌羐养𣴎羖=H𦐂翃CK9A:G?5=:<E?;JZB;=U:?:H𦙾胅G:E𦚰脍`/=䏮脵"),
    (7927, "脖?䏰脤:<𦜝脽䐈腩䐗膁䐜膄8䐢膘QF9J<𦣝臤𦣪臬𦥑臽9𦥯舄𦧝舙?8𦨞舲9?A:3𦩘艋䑶艏䑺艗𦪌艜>𦪷\ufa5d8艹䒑艽9;>@K8A9=9`m=FG8;a7_f9JC?J䒾荿䓔`&莍>8=9`s>;@?"),
    (8021, "菹M9;𦱳萗YH<98>89𦳝葥H9;<䔍蓜_ZFO䔈蓎8;𦹥蓧:<88@:FF@8=@RW䔥U蔾J9B:8𦾔蕻999<DA9𦿸58薷<B:E8=9<GAHD:::𧄍蘹:𧄹虀\ufa20虓:P?:D9;;B8"),
    (8119, "蚨﨡蚱9E9E;9C:䖸蜅9>9:==99E@;9:E>C8DA𧏛6螧`)9?D𧏾䗥螾𧐐蟁D`n`1𧑉蟣98;89K9??L=;A䘏衊E><𧘕6衩𧘱衯`xS889I𧚓裑9?L8䙁褁𧜎褷𧜣襂:;𧝒䙥襢U@>FH"),
    (8219, "覷V9J䚡觱9A9䚯訑:𧦅訡K@>?BaE`)`n>P`l𧪄謊2?F:EM䜌譑DO@9A@8>9b2𧮳谽𧮾@豅9?<:I;=𧲸貓6>䝤貛@`y6;𧶠賰8𧸐贉<aMOHH𧾷跆9HJW䟽跽@𨂊踔9B8<𨂻䠖踶:I"),
    (8316, "蹔EA89`p=G<98<𨊂軑:䡎軹𨋳輀?FKLAE𨐌辤G\ufa66辶𨑕迁<﨤迊:=9BH;=>A`r𨕫遃8P𨗈8邅>;pT邡䢵邰=D<𨛗郜:𨛺郶3E`2J8<9I;9P98C8G9?:G<C@Q=<:D8"),
    (8411, "釚𨥉4釬9J@C8𨥫鈳F<:;:<:>8;98𨦇8鉼89A;A9=?;𨦺8銲D8=?9>9C9`q𨨞B鋷99>B??8@9𨩱_q鍇A=:H=9`u𨪙a#鎈:;FaF𨫤0鏱_o=L=<Y=>8`+a&9>A𨯁"),
    (8506, "𨯯鑭9cH8D=8𨴐閫@𨵱闈𨷻[阬>8𨸶阼<W𨺉隂𨻫隚𨼲䧧隩=;>:䧺𨿸雘9:䨄霔F䨩霶B=E9;F𩊠H鞖;;;F8CE<:;8?GJ@8=9䪼𩒐頣F8)YVa49:𩗏颷8:8::<;L𩙿飡99<=89L䬻𩛰"),
    (8608, "餖8𩜙餚88𩝐餱88>88;8<>8E:8a2:J;9;=B<<𩣆駰@:E><;=H<E?C䯂骯䯊骷䯒骹𩩲髆A9:䯨髜;<;Q@;9;=F?A䰠魋O9=8>:8`v=<𩷛aQ鮲==@`s`,<A:8;6𩸕鯺𩺊"),
    (8707, "鯷𩹉鰖988:<<98𩻄鰱<8EN𩻩鱉8𩻛鱔;:99A889899:<a[CP.𩿎鴑=8𪀯䳄𪀚鴲䳑鵂?L:𪃹鵩9𪂂鵳:8>=@C?U-;;=;9D;<8:H䴇鸊/BC:8aM𢈘麀<MD𪎌麽𪐷黟?>H:䵷鼃K9"),
    (8809, "鼯?::;;8D9:𪗱齝𪘂齩𪘚齭:<𪚲")]

/-- What code page 932 has in other cells than JIS X 0208, or has other characters for. -/
def cp932 : List (Nat × String) :=
  [(32, "～∥"), (60, "－"), (80, "￠8"), (137, "￢"), (1128, "①!3Ⅰ!)"), (1159, "㍉_jE`r_jF`#`zR=_UP4?V(aP88'8a$`$"),
    (1190, "㍻〝9№㏍℡㊤!$_(8>d,66≒F_i:`*@az^r6b7^m+8"),
    (8272, "纊褜鍈^7蓜俉炻昱gv鋹曻彅丨bPR;:a%Ta+/G1a(ab`)`$V`o`q_qaAaO`+aaQa(X`u`pavAQR`l>Ta=XV`r﨎咜%VaEavebCa6S6﨏8增KaHa7?9=a0M"),
    (8345, "孖aY甯寘K`yawKa*`y`s﨑嵂`ra:8Nd8J`za?`nan`o<aC.a:_qV`m0aWajb*d6aZa,`xaobIL`m_m`l'=a0)9\ufa12晳`m>IDa*K\uf929杦"),
    (8405, "枻b.^ea0a2az﨓楨﨔榘a9a=a*_z`tBaS9c1aXT`q`0aZ`qar`/`nMZ`p1Aa,Z_jLarb``ta/G9XaL`maS,aG`18\ufa15燁a,bJDaU\ufa16獷"),
    (8464, "玽CDD&a$%`x;6<a#`nMaQa]cRQ94B\ufa17睆劯砡`tMMbM\ufa1888禔\ufa1b禛cuM\ufa1c竫bJ\ufa1d絈KaJ`0a%akc4aI\ufa1e茁aPTa7"),
    (8518, "菶aAa[b6=I﨟薰\ufa208蠇c-訒`la1`uNX\ufa22諶aL`sdX;UaS﨣軏﨤8遧af\ufa26鄕IbJ4>F8-8XA1`w=3IB/`/`ua/_o8a^'9.﨧鋕B*aA3_y﨨"),
    (8586, "錞`(U`,a]`.a<YOQa(K:d1\uf9dca<隝Ias??A99;cAE\ufa2a8餧\ufa2c馞bGaz:b04TYAa4dW2\ufa2d鸙bO"), (8634, "ⅰ!)￢9]r2"),
    (10716, "ⅰ!)`.!)￢9]r2㈱№BcS纊褜鍈^7蓜俉炻昱gv鋹曻彅丨bPR;:a%Ta+/G1a(ab`)`$V`o`q_qaAaO`+aaQa(X`u`pavAQR`l>Ta=XV`r﨎咜%VaEavebC"),
    (10803, "垬S6﨏8增KaHa7?9=a0Me+aY甯寘K`yawKa*`y`s﨑嵂`ra:8Nd8J`za?`nan`o<aC.a:_qV`m0aWajb*d6aZa,`xaobIL`m_m`l'=a0)9"),
    (10867, "\ufa12晳`m>IDa*K\uf929杦aDb.^ea0a2az﨓楨﨔榘a9a=a*_z`tBaS9c1aXT`q`0aZ`qar`/`nMZ`p1Aa,Z_jLarb``ta/G9XaL`maS,aG"),
    (10926, "煆8\ufa15燁a,bJDaU\ufa16獷a5CDD&a$%`x;6<a#`nMaQa]cRQ94B\ufa17睆劯砡`tMMbM\ufa1888禔\ufa1b禛cuM\ufa1c竫bJ\ufa1d絈K"),
    (10979, "綷`0a%akc4aI\ufa1e茁aPTa7`vaAa[b6=I﨟薰\ufa208蠇c-訒`la1`uNX\ufa22諶aL`sdX;UaS﨣軏﨤8遧af\ufa26鄕IbJ4>F8-8XA1`w=3IB"),
    (11040, "鉑`/`ua/_o8a^'9.﨧鋕B*aA3_y﨨錞`(U`,a]`.a<YOQa(K:d1\uf9dca<隝Ias??A99;cAE\ufa2a8餧\ufa2c馞bGaz:b04TYAa4dW2"),
    (11101, "\ufa2d鸙bO")]

end GirDoc.Text.Grid.Run
